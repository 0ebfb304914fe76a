/-
**Script numbers: integers as byte strings.**

An integer is written little end first, in as few bytes as hold its size and one more bit.  That
bit, the highest of the last byte, is the sign.  Zero has no bytes.  Integers of any size have an
encoding, and every byte string denotes an integer, if not always in the shortest way.

Main definitions:

* `ScriptTutor.ScriptNumber.encode` — the bytes of an integer;
* `ScriptTutor.ScriptNumber.decode` — the integer that a byte string denotes.

Main results:

* `ScriptTutor.ScriptNumber.decode_encode` — **what is written is read back**;
* `ScriptTutor.ScriptNumber.encode_injective` — different integers have different bytes.
-/

import ScriptTutor.Bytes.LittleEndian

set_option relaxedAutoImplicit false
set_option autoImplicit false

namespace ScriptTutor.ScriptNumber

/-- What the highest bit of `w` bytes counts.  It is the sign, so that sizes lie below. -/
def signBit (w : Nat) : Nat := 0x80 * 0x100 ^ (w - 1)

/-! ### Writing -/

/-- The number of bytes that hold a size `n` and a sign; zero needs none. -/
def width (n : Nat) : Nat := if n = 0 then 0 else (n.log2 + 1) / 8 + 1

/-- The bytes of an integer; zero has none. -/
def encode (n : Int) : Bytes :=
  let w := width n.natAbs
  Bytes.ofValueByHalves w (if n < 0 then n.natAbs + signBit w else n.natAbs)

/-! ### Reading -/

def decode (bs : Bytes) : Int :=
  let n := bs.valueByHalves
  let s := signBit bs.length
  if n < s then n else -((n - s : Nat) : Int)

/-! ### Reading what was written -/

theorem lt_signBit_width (n : Nat) : n < signBit (width n) := by
  rw [width]
  split
  · next h => simp [signBit, h]
  · next h =>
    calc n < 2 ^ (n.log2 + 1) := Nat.lt_log2_self
      _ ≤ 2 ^ (7 + 8 * ((n.log2 + 1) / 8)) := Nat.pow_le_pow_right (by decide) (by omega)
      _ = signBit ((n.log2 + 1) / 8 + 1) := by
        rw [signBit, Nat.add_sub_cancel, Nat.pow_add, Nat.pow_mul]

theorem signBit_add_signBit {w : Nat} (h : w ≠ 0) : signBit w + signBit w = 0x100 ^ w := by
  cases w with
  | zero => exact absurd rfl h
  | succ w =>
      rw [signBit, Nat.add_sub_cancel, Nat.pow_succ']
      omega

theorem width_ne_zero {n : Nat} (h : n ≠ 0) : width n ≠ 0 := by
  simp [width, h]

@[simp] theorem length_encode (n : Int) : (encode n).length = width n.natAbs := by
  simp [encode, Bytes.ofValueByHalves_eq]

/-- **What is written is read back.** -/
theorem decode_encode (n : Int) : decode (encode n) = n := by
  by_cases h : n = 0
  · subst h
    rfl
  · have hw : width n.natAbs ≠ 0 := width_ne_zero (by omega)
    have hs := signBit_add_signBit hw
    have hn := lt_signBit_width n.natAbs
    simp only [decode, length_encode, Bytes.valueByHalves_eq]
    simp only [encode, Bytes.ofValueByHalves_eq, Bytes.value_ofValue, ← hs]
    split
    · next hneg =>
      rw [Nat.mod_eq_of_lt (by omega), if_neg (by omega)]
      omega
    · next hneg =>
      rw [Nat.mod_eq_of_lt (by omega), if_pos hn]
      omega

theorem encode_injective {m n : Int} (h : encode m = encode n) : m = n := by
  rw [← decode_encode m, h, decode_encode]

end ScriptTutor.ScriptNumber
