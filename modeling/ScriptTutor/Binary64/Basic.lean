/-
**Binary fractions of 64 bits.**

A caller may hand over a number that is no integer.  Such a number is a binary fraction with a
significand of 53 bits, an infinity, or the result of an undefined operation.  It cannot lie on a
stack, but it can be shown, compared with an integer, and counted up by one.

Main definitions:

* `ScriptTutor.Binary64` — the numbers;
* `ScriptTutor.Binary64.nearest` — the number nearest to a quotient of naturals;
* `ScriptTutor.Binary64.compareTo` — comparison with an integer;
* `ScriptTutor.Binary64.next` — the sum with one.

Main results:

* `ScriptTutor.Binary64.roundedQuotient_near` — rounding a quotient moves it by **at most one
  half**;
* `ScriptTutor.Binary64.roundedQuotient_tie` — of two naturals at the same distance, the even one
  is taken.
-/

import ScriptTutor.Text.Numeral

set_option relaxedAutoImplicit false
set_option autoImplicit false

namespace ScriptTutor

/-- The binary fractions of 64 bits. -/
inductive Binary64 where
  /-- The significand times two to the exponent, with a sign, which zero has as well. -/
  | finite (negative : Bool) (significand : Nat) (exponent : Int)
  | infinite (negative : Bool)
  /-- The result of an undefined operation. -/
  | undefined
  deriving DecidableEq

namespace Binary64

/-! ### Rounding -/

def roundedQuotient (num den : Nat) : Nat :=
  let q := num / den
  let r := num % den
  if 2 * r < den then q else if 2 * r = den then q + q % 2 else q + 1

/-- Rounding a quotient moves it by at most one half. -/
theorem roundedQuotient_near (num : Nat) {den : Nat} (h : 0 < den) :
    2 * num ≤ (2 * roundedQuotient num den + 1) * den ∧
      (2 * roundedQuotient num den) * den ≤ 2 * num + den := by
  have hd : den * (num / den) + num % den = num := Nat.div_add_mod num den
  have hr : num % den < den := Nat.mod_lt _ h
  simp only [roundedQuotient]
  generalize num / den = q at hd
  generalize num % den = r at hd hr
  subst hd
  have key (x : Nat) : (2 * x + 1) * den = 2 * (den * x) + den ∧
      2 * x * den = 2 * (den * x) := by
    constructor <;> grind
  have up : den * (q + 1) = den * q + den := Nat.mul_succ den q
  split
  · rw [(key q).1, (key q).2]
    omega
  · split
    · rcases Nat.mod_two_eq_zero_or_one q with hq | hq
      · simp only [hq, Nat.add_zero, (key q).1, (key q).2]
        omega
      · simp only [hq, (key (q + 1)).1, (key (q + 1)).2, up]
        omega
    · rw [(key (q + 1)).1, (key (q + 1)).2, up]
      omega

/-- Of two naturals at the same distance, the even one is taken. -/
theorem roundedQuotient_tie {num den : Nat} (h : 2 * (num % den) = den) :
    roundedQuotient num den % 2 = 0 := by
  simp only [roundedQuotient]
  split <;> omega

def leastExponent : Int := -1074

def greatestExponent : Int := 971

/-- The quotient of two naturals in units of two to the given power, as a quotient. -/
def inUnits (e : Int) (num den : Nat) : Nat × Nat := (num * 2 ^ (-e).toNat, den * 2 ^ e.toNat)

/-- The exponent at which a quotient has a significand of 53 bits, as far as there is one. -/
def exponentFor (num den : Nat) : Int :=
  let e : Int := (num.log2 : Int) - den.log2 - 53
  let (a, b) := inUnits e num den
  max leastExponent (if b * 2 ^ 53 ≤ a then e + 1 else e)

/-- The number of the given significand and exponent, unless the exponent is too great. -/
def ofParts (negative : Bool) (significand : Nat) (e : Int) : Binary64 :=
  if greatestExponent < e then infinite negative else finite negative significand e

/-- The number nearest to a quotient of naturals, with the given sign; a half goes to the even
significand. -/
def nearest (negative : Bool) (num den : Nat) : Binary64 :=
  if num = 0 then finite negative 0 leastExponent
  else
    let e := exponentFor num den
    let (a, b) := inUnits e num den
    let m := roundedQuotient a b
    if m = 2 ^ 53 then ofParts negative (2 ^ 52) (e + 1) else ofParts negative m e

/-! ### Comparison and counting -/

/-- How a number compares with an integer; the result of an undefined operation does not. -/
def compareTo (n : Int) : Binary64 → Option Ordering
  | finite negative m e => some (compare (signed negative m * 2 ^ e.toNat) (n * 2 ^ (-e).toNat))
  | infinite negative => some (if negative then .lt else .gt)
  | undefined => none

def isZero (x : Binary64) : Bool := x.compareTo 0 == some .eq

/-- The sum of a number with one. -/
def next : Binary64 → Binary64
  | finite negative m e =>
    let one : Nat := 2 ^ (-e).toNat
    let sum : Int := signed negative m * 2 ^ e.toNat + one
    nearest (decide (sum < 0)) sum.natAbs one
  | x => x

end Binary64

end ScriptTutor
