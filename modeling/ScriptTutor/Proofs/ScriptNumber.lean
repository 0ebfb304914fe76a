/-
**The shortest bytes of a number.**

The highest bit of the last byte is the sign, and all other bits are the size.  A byte string may
be longer than its number needs: the last byte may hold nothing but the sign although the byte
before it has room for that.  Zero may even have a sign.  The encoding of a number is the one byte
string without such a byte, and every other byte string of the number is longer.

Main definition:

* `ScriptTutor.ScriptNumber.IsShortest` — the last byte of a byte string is needed.

Main results:

* `ScriptTutor.ScriptNumber.decode_concat` — a byte string denotes its digits, little end first,
  without the highest bit of the last byte, which is the sign;
* `ScriptTutor.ScriptNumber.width_le_iff` — so many bytes hold exactly the sizes below the sign;
* `ScriptTutor.ScriptNumber.decode_encode_and_concat` — **reading undoes writing**, and every byte
  string is read by its digits;
* `ScriptTutor.ScriptNumber.encode_decode_eq_iff_isShortest` — **the encodings are the shortest byte
  strings**.
-/

import Mathlib.Data.List.Basic
import Mathlib.Data.Nat.Bitwise
import ScriptTutor.ScriptNumber

set_option relaxedAutoImplicit false
set_option autoImplicit false

namespace ScriptTutor

/-! ### Numbers in base 256 -/

namespace Bytes

theorem value_concat (bs : Bytes) (b : UInt8) :
    value (bs ++ [b]) = value bs + 0x100 ^ bs.length * b.toNat := by
  simp [value_append, value]

@[simp] theorem value_replicate_zero (w : Nat) : value (List.replicate w 0) = 0 := by
  induction w with
  | zero => rfl
  | succ w ih => simp [List.replicate_succ, value, ih]

/-- Of one length, different byte strings denote different numbers. -/
theorem value_injective {bs cs : Bytes} (hlen : bs.length = cs.length)
    (h : value bs = value cs) : bs = cs := by
  induction bs generalizing cs with
  | nil => exact (List.eq_nil_of_length_eq_zero hlen.symm).symm
  | cons b bs ih =>
      cases cs with
      | nil => cases hlen
      | cons c cs =>
          have hb := b.toNat_lt
          have hc := c.toNat_lt
          simp only [value] at h
          have hfirst : b = c := UInt8.toNat_inj.1 (by omega)
          have hrest : bs = cs := ih (Nat.succ.inj hlen) (by omega)
          rw [hfirst, hrest]

end Bytes

namespace ScriptNumber

open Bytes

/-! ### The sign and the size -/

theorem toNat_and_size (b : UInt8) : (b &&& 0x7F).toNat = b.toNat % 0x80 := by
  rw [UInt8.toNat_and]
  exact Nat.and_two_pow_sub_one_eq_mod b.toNat 7

theorem and_sign_eq_zero_iff (b : UInt8) : b &&& 0x80 = 0 ↔ b.toNat < 0x80 := by
  have hb := b.toNat_lt
  have hbit : b.toNat &&& 0x80 = (b.toNat.testBit 7).toNat * 0x80 := Nat.and_two_pow b.toNat 7
  rw [← UInt8.toNat_inj, UInt8.toNat_and]
  show b.toNat &&& 0x80 = 0 ↔ _
  rw [hbit, Nat.testBit_eq_decide_div_mod_eq]
  by_cases h : b.toNat < 0x80
  · simp [h]
    omega
  · simp [h]
    omega

theorem signBit_succ (w : Nat) : signBit (w + 1) = 0x80 * 0x100 ^ w := by
  rw [signBit, Nat.add_sub_cancel]

theorem value_size_lt (bs : Bytes) (b : UInt8) :
    value (bs ++ [b &&& 0x7F]) < signBit (bs.length + 1) := by
  have hbs := value_lt bs
  have hb : b.toNat % 0x80 + 1 ≤ 0x80 := Nat.mod_lt _ (by decide)
  calc value (bs ++ [b &&& 0x7F])
      = value bs + 0x100 ^ bs.length * (b.toNat % 0x80) := by rw [value_concat, toNat_and_size]
    _ < 0x100 ^ bs.length * (b.toNat % 0x80 + 1) := by rw [Nat.mul_succ]; omega
    _ ≤ 0x100 ^ bs.length * 0x80 := Nat.mul_le_mul_left _ hb
    _ = signBit (bs.length + 1) := by rw [signBit_succ, Nat.mul_comm]

/-- The highest bit counts as the sign. -/
theorem value_eq_size_add (bs : Bytes) (b : UInt8) :
    value (bs ++ [b]) =
      value (bs ++ [b &&& 0x7F]) + if b &&& 0x80 = 0 then 0 else signBit (bs.length + 1) := by
  have hb := b.toNat_lt
  simp only [value_concat, toNat_and_size, and_sign_eq_zero_iff, signBit_succ]
  split
  · next hlow => rw [Nat.mod_eq_of_lt hlow, Nat.add_zero]
  · next hhigh =>
    have hsplit : b.toNat = b.toNat % 0x80 + 0x80 := by omega
    conv => lhs; rw [hsplit, Nat.mul_add, ← Nat.add_assoc, Nat.mul_comm _ 0x80]

/-- A byte string **denotes its digits** without the highest bit of the last byte, which is the
sign. -/
theorem decode_concat (bs : Bytes) (b : UInt8) :
    decode (bs ++ [b]) =
      if b &&& 0x80 = 0 then (value (bs ++ [b &&& 0x7F]) : Int)
      else -(value (bs ++ [b &&& 0x7F]) : Int) := by
  have hsize := value_size_lt bs b
  have hvalue := value_eq_size_add bs b
  simp only [decode, valueByHalves_eq, List.length_append, List.length_singleton]
  split at hvalue
  · next hsign => rw [if_pos (by omega), if_pos hsign, hvalue, Nat.add_zero]
  · next hsign => rw [if_neg (by omega), if_neg hsign, hvalue, Nat.add_sub_cancel]

theorem natAbs_decode_concat (bs : Bytes) (b : UInt8) :
    (decode (bs ++ [b])).natAbs = value (bs ++ [b &&& 0x7F]) := by
  rw [decode_concat]
  split <;> omega

theorem value_lt_signBit_iff (bs : Bytes) (b : UInt8) :
    value (bs ++ [b]) < signBit (bs.length + 1) ↔ b &&& 0x80 = 0 := by
  have hsize := value_size_lt bs b
  have hvalue := value_eq_size_add bs b
  split at hvalue
  · next hsign => exact iff_of_true (by omega) hsign
  · next hsign => exact iff_of_false (by omega) hsign

/-- **Reading undoes writing.**  A byte string denotes its digits, little end first, without the
highest bit of the last byte; if that bit is set, the number is negative.  No bytes denote zero, and
so does a sign with nothing else. -/
theorem decode_encode_and_concat :
    (∀ n : Int, decode (encode n) = n) ∧
      decode [] = 0 ∧
      (∀ (bs : Bytes) (b : UInt8), decode (bs ++ [b]) =
        if b &&& 0x80 = 0 then (value (bs ++ [b &&& 0x7F]) : Int)
        else -(value (bs ++ [b &&& 0x7F]) : Int)) ∧
      ∀ w : Nat, decode (List.replicate w 0 ++ [0x80]) = 0 := by
  refine ⟨decode_encode, rfl, decode_concat, ?_⟩
  intro w
  rw [← Int.natAbs_eq_zero, natAbs_decode_concat, value_concat, value_replicate_zero]
  rfl

/-! ### How many bytes a number needs -/

theorem signBit_eq_two_pow {w : Nat} (h : w ≠ 0) : signBit w = 2 ^ (8 * w - 1) := by
  obtain ⟨w, rfl⟩ := Nat.exists_eq_succ_of_ne_zero h
  rw [signBit_succ, show 8 * (w + 1) - 1 = 7 + 8 * w by omega, Nat.pow_add, Nat.pow_mul]

/-- So many bytes **hold exactly the sizes below the sign**. -/
theorem width_le_iff {n w : Nat} (h : w ≠ 0) : width n ≤ w ↔ n < signBit w := by
  rw [width, signBit_eq_two_pow h]
  split
  · next hzero =>
    rw [hzero]
    exact iff_of_true (Nat.zero_le w) (Nat.two_pow_pos _)
  · next hn =>
    rw [← Nat.log2_lt hn]
    omega

theorem width_eq_zero_iff {n : Nat} : width n = 0 ↔ n = 0 := by
  constructor
  · intro h
    by_contra hn
    exact width_ne_zero hn h
  · rintro rfl
    rfl

theorem length_encode_decode_le (bs : Bytes) : (encode (decode bs)).length ≤ bs.length := by
  obtain rfl | ⟨bs, b, rfl⟩ := List.eq_nil_or_concat' bs
  · exact Nat.le_refl 0
  · rw [length_encode, natAbs_decode_concat, List.length_append, List.length_singleton,
      width_le_iff (Nat.succ_ne_zero _)]
    exact value_size_lt bs b

/-! ### One byte string for each number -/

theorem value_of_decode {bs : Bytes} (h : decode bs ≠ 0) :
    value bs = if decode bs < 0 then (decode bs).natAbs + signBit bs.length
      else (decode bs).natAbs := by
  simp only [decode, valueByHalves_eq] at h ⊢
  split at h <;> grind

/-- Of one length, there is no more than one byte string for a number other than zero. -/
theorem decode_injective_of_length {bs cs : Bytes} (hlen : bs.length = cs.length)
    (h : decode bs = decode cs) (hne : decode bs ≠ 0) : bs = cs := by
  refine value_injective hlen ?_
  rw [value_of_decode hne, value_of_decode (h ▸ hne), h, hlen]

/-- A byte string that is no longer than the encoding of its number is that encoding. -/
theorem eq_encode_of_length_le {bs : Bytes} {n : Int} (h : decode bs = n)
    (hle : bs.length ≤ (encode n).length) : bs = encode n := by
  obtain rfl | hn := eq_or_ne n 0
  · exact List.eq_nil_of_length_eq_zero (Nat.le_zero.1 hle)
  · have hge := length_encode_decode_le bs
    rw [h] at hge
    refine decode_injective_of_length (Nat.le_antisymm hle hge) ?_ (h ▸ hn)
    rw [h, decode_encode]

theorem encode_decode_eq_iff_length {bs : Bytes} :
    encode (decode bs) = bs ↔ bs.length ≤ width (decode bs).natAbs := by
  rw [← length_encode]
  constructor
  · intro h
    rw [h]
  · intro h
    exact (eq_encode_of_length_le rfl h).symm

/-! ### The last byte -/

/-- The last byte of a byte string is needed: there is none, or it holds more than the sign, or
there is a byte before it that has no room for the sign. -/
def IsShortest (bs : Bytes) : Prop :=
  bs = [] ∨ (∃ b ∈ bs.getLast?, b &&& 0x7F ≠ 0) ∨ ∃ c ∈ bs.dropLast.getLast?, c &&& 0x80 ≠ 0

instance (bs : Bytes) : Decidable (IsShortest bs) := inferInstanceAs (Decidable (_ ∨ _ ∨ _))

@[simp] theorem isShortest_concat (bs : Bytes) (b : UInt8) :
    IsShortest (bs ++ [b]) ↔ b &&& 0x7F ≠ 0 ∨ ∃ c ∈ bs.getLast?, c &&& 0x80 ≠ 0 := by
  simp [IsShortest]

/-- One byte less is too short exactly if the last byte is needed. -/
theorem lt_width_iff_isShortest (bs : Bytes) (b : UInt8) :
    bs.length < width (value (bs ++ [b &&& 0x7F])) ↔ IsShortest (bs ++ [b]) := by
  rw [isShortest_concat, ← not_iff_not, Nat.not_lt, not_or, Decidable.not_not]
  obtain rfl | ⟨bs, c, rfl⟩ := List.eq_nil_or_concat' bs
  · simp [value, width_eq_zero_iff, ← UInt8.toNat_inj]
  · -- the sign of the shorter byte string lies in its last byte
    have hsign : (¬ ∃ x ∈ (bs ++ [c]).getLast?, x &&& 0x80 ≠ 0) ↔
        value (bs ++ [c]) < signBit (bs.length + 1) := by
      simp [value_lt_signBit_iff]
    rw [hsign, List.length_append, List.length_singleton, width_le_iff (Nat.succ_ne_zero _),
      value_concat (bs ++ [c])]
    by_cases hb : b &&& 0x7F = 0
    · simp [hb]
    · -- what the last byte holds counts twice as much as the sign before it
      have hpos : 1 ≤ (b &&& 0x7F).toNat :=
        Nat.one_le_iff_ne_zero.2 fun hzero => hb (UInt8.toNat_inj.1 hzero)
      have hdouble := signBit_add_signBit (Nat.succ_ne_zero bs.length)
      have hlarge : 0x100 ^ (bs ++ [c]).length ≤
          0x100 ^ (bs ++ [c]).length * (b &&& 0x7F).toNat := Nat.le_mul_of_pos_right _ hpos
      rw [List.length_append, List.length_singleton] at hlarge ⊢
      exact iff_of_false (by omega) fun h => hb h.1

/-- **The encodings are the shortest byte strings.**  A byte string is the encoding of the number
that it denotes exactly if its last byte is needed; the encoding is never longer, and no other byte
string of its length or below denotes the same number. -/
theorem encode_decode_eq_iff_isShortest :
    (∀ bs : Bytes, encode (decode bs) = bs ↔ IsShortest bs) ∧
      (∀ bs : Bytes, (encode (decode bs)).length ≤ bs.length) ∧
      ∀ (n : Int) (bs : Bytes), decode bs = n ∧ bs.length ≤ (encode n).length ↔ bs = encode n := by
  refine ⟨?_, length_encode_decode_le, ?_⟩
  · intro bs
    obtain rfl | ⟨bs, b, rfl⟩ := List.eq_nil_or_concat' bs
    · exact iff_of_true rfl (.inl rfl)
    · rw [encode_decode_eq_iff_length, natAbs_decode_concat, ← lt_width_iff_isShortest,
        List.length_append, List.length_singleton]
      exact Iff.rfl
  · intro n bs
    constructor
    · rintro ⟨h, hle⟩
      exact eq_encode_of_length_le h hle
    · rintro rfl
      exact ⟨decode_encode n, Nat.le_refl _⟩

/-- A last byte with nothing but the sign is needed if the byte before it is full. -/
example : IsShortest [0xFF, 0x80] ∧ ¬ IsShortest [0x7F, 0x80] ∧ ¬ IsShortest [0x80] := by
  decide

end ScriptNumber

end ScriptTutor
