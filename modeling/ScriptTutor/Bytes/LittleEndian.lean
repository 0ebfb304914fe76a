/-
**Numbers in base 256, the lowest digit first.**

A byte string is the list of the digits of a number, and a number has a byte string of every width
that holds it.  Going digit by digit costs an operation on a large number for each byte, so that
long byte strings take quadratic time.  Going by halves, the numbers stay small until the last few
steps.  Both ways give the same.

Main definitions:

* `ScriptTutor.Bytes.value`, `ScriptTutor.Bytes.ofValue` — digit by digit;
* `ScriptTutor.Bytes.valueByHalves`, `ScriptTutor.Bytes.ofValueByHalves` — by halves.

Main results:

* `ScriptTutor.Bytes.value_ofValue` — **the digits of a number denote it**, as far as the width
  reaches;
* `ScriptTutor.Bytes.valueByHalves_eq`, `ScriptTutor.Bytes.ofValueByHalves_eq` — the two ways
  agree.
-/

import ScriptTutor.Bytes

set_option relaxedAutoImplicit false
set_option autoImplicit false

namespace ScriptTutor.Bytes

/-! ### Digit by digit -/

/-- The number whose digits the bytes are. -/
def value : Bytes → Nat
  | [] => 0
  | b :: bs => b.toNat + 0x100 * value bs

/-- The lowest digits of `n`, as many as the width says. -/
def ofValue : Nat → Nat → Bytes
  | 0, _ => []
  | w + 1, n => UInt8.ofNat n :: ofValue w (n / 0x100)

/-- The first part of a byte string counts as it stands, the rest by the width of the first. -/
theorem value_append (bs cs : Bytes) :
    value (bs ++ cs) = value bs + 0x100 ^ bs.length * value cs := by
  induction bs with
  | nil => simp [value]
  | cons b bs ih =>
      simp only [List.cons_append, value, ih, List.length_cons, Nat.pow_succ', Nat.mul_add,
        Nat.mul_assoc, Nat.add_assoc]

theorem value_lt (bs : Bytes) : value bs < 0x100 ^ bs.length := by
  induction bs with
  | nil => simp [value]
  | cons b bs ih =>
      have hb := b.toNat_lt
      rw [value, List.length_cons, Nat.pow_succ']
      omega

@[simp] theorem length_ofValue (w n : Nat) : (ofValue w n).length = w := by
  induction w generalizing n with
  | zero => rfl
  | succ w ih => simp [ofValue, ih]

/-- **The digits of a number denote it**, as far as the width reaches. -/
theorem value_ofValue (w n : Nat) : value (ofValue w n) = n % 0x100 ^ w := by
  induction w generalizing n with
  | zero => simp [ofValue, value, Nat.mod_one]
  | succ w ih =>
      rw [ofValue, value, ih, Nat.pow_succ', Nat.mod_mul, UInt8.toNat_ofNat']

/-- The lowest digits of `n` are those of its remainder, and what follows them are those of its
quotient. -/
theorem ofValue_add (v w n : Nat) :
    ofValue (v + w) n = ofValue v (n % 0x100 ^ v) ++ ofValue w (n / 0x100 ^ v) := by
  induction v generalizing n with
  | zero => simp [ofValue]
  | succ v ih =>
      have hd : n % 0x100 ^ (v + 1) / 0x100 = n / 0x100 % 0x100 ^ v := by
        rw [Nat.pow_succ', Nat.mod_mul_right_div_self]
      have hm : UInt8.ofNat (n % 0x100 ^ (v + 1)) = UInt8.ofNat n := by
        apply UInt8.toNat_inj.mp
        rw [UInt8.toNat_ofNat', UInt8.toNat_ofNat', Nat.pow_succ', Nat.mod_mul_right_mod]
      rw [Nat.succ_add, ofValue, ofValue, ih, hd, hm, List.cons_append, Nat.div_div_eq_div_mul,
        Nat.pow_succ']

/-! ### By halves -/

/-- How often a byte string of the given length is halved: until a part has about a hundred
bytes. -/
def halvings (length : Nat) : Nat := length.log2 - 6

/-- The number whose digits the bytes are, read in halves. -/
def valueInHalves : Nat → Bytes → Nat
  | 0, bs => value bs
  | k + 1, bs =>
    let m := bs.length / 2
    valueInHalves k (bs.take m) + 0x100 ^ m * valueInHalves k (bs.drop m)

/-- The lowest digits of `n`, as many as the width says, written in halves. -/
def ofValueInHalves : Nat → Nat → Nat → Bytes
  | 0, w, n => ofValue w n
  | k + 1, w, n =>
    let m := w / 2
    ofValueInHalves k m (n % 0x100 ^ m) ++ ofValueInHalves k (w - m) (n / 0x100 ^ m)

/-- The number whose digits the bytes are. -/
def valueByHalves (bs : Bytes) : Nat := valueInHalves (halvings bs.length) bs

/-- The lowest digits of `n`, as many as the width says. -/
def ofValueByHalves (w n : Nat) : Bytes := ofValueInHalves (halvings w) w n

theorem valueInHalves_eq (k : Nat) (bs : Bytes) : valueInHalves k bs = value bs := by
  induction k generalizing bs with
  | zero => rfl
  | succ k ih =>
      conv => rhs; rw [← List.take_append_drop (bs.length / 2) bs, value_append, List.length_take]
      rw [valueInHalves, ih, ih, Nat.min_eq_left (Nat.div_le_self _ _)]

theorem ofValueInHalves_eq (k w n : Nat) : ofValueInHalves k w n = ofValue w n := by
  induction k generalizing w n with
  | zero => rfl
  | succ k ih =>
      conv => rhs; rw [← Nat.add_sub_cancel' (Nat.div_le_self w 2), ofValue_add]
      rw [ofValueInHalves, ih, ih]

theorem valueByHalves_eq (bs : Bytes) : valueByHalves bs = value bs := valueInHalves_eq _ _

theorem ofValueByHalves_eq (w n : Nat) : ofValueByHalves w n = ofValue w n :=
  ofValueInHalves_eq _ _ _

end ScriptTutor.Bytes
