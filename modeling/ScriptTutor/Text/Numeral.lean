/-
**Numerals: numbers as text.**

A numeral is decimal, with an optional sign, or hexadecimal behind the mark `0x`.  Hexadecimal
numerals may be of any length.  A decimal numeral has at most `digitLimit` digits, in reading and
in writing, because conversion between bases takes quadratic time.

Main definitions:

* `ScriptTutor.Numeral.read` — what a text denotes: a number, a decimal numeral that is too long,
  or nothing;
* `ScriptTutor.decimalText`, `ScriptTutor.hexText` — the two ways to write a number.
-/

import ScriptTutor.Basic

set_option relaxedAutoImplicit false
set_option autoImplicit false

namespace ScriptTutor

/-- A decimal numeral has no more digits than this; leading zeros count, a sign does not. -/
def digitLimit : Nat := 4300

/-! ### Digits -/

/-- The value of a digit up to fifteen.  Letters count in either case; digits outside ASCII are no
digits. -/
def digit? (c : CodePoint) : Option Nat :=
  if 48 ≤ c.val ∧ c.val ≤ 57 then some (c.val - 48)
  else if 97 ≤ c.val ∧ c.val ≤ 102 then some (c.val - 87)
  else if 65 ≤ c.val ∧ c.val ≤ 70 then some (c.val - 55)
  else none

def digitValue? (b : Nat) (c : CodePoint) : Option Nat := (digit? c).filter (· < b)

/-- Reads the digits of `t` in base `b` after digits of the value `n`. -/
def readDigits (b : Nat) : Nat → Text → Option Nat
  | n, [] => some n
  | n, c :: t =>
    match digitValue? b c with
    | some d => readDigits b (n * b + d) t
    | none => none

/-- The number that the text denotes in base `b`; it needs a digit. -/
def naturalOf? (b : Nat) (t : Text) : Option Nat :=
  if t = [] then none else readDigits b 0 t

/-! ### Reading -/

/-- What follows the mark `0x` or `0X` of a hexadecimal numeral. -/
def afterHexMark? : Text → Option Text
  | z :: x :: t => if z = '0' ∧ (x = 'x' ∨ x = 'X') then some t else none
  | _ => none

def splitSign : Text → Bool × Text
  | [] => (false, [])
  | c :: t => if c = '-' then (true, t) else if c = '+' then (false, t) else (false, c :: t)

def signed (negative : Bool) (n : Nat) : Int := if negative then -(n : Int) else n

namespace Numeral

/-- What a text denotes as a numeral. -/
inductive Reading where
  /-- The text is a numeral of this value. -/
  | number (n : Int)
  /-- The text is a decimal numeral of more than `digitLimit` digits. -/
  | tooLong
  /-- The text is no numeral. -/
  | absent
  deriving DecidableEq

def readDecimal (t : Text) : Reading :=
  let (negative, ds) := splitSign t
  if ds.length ≤ digitLimit then
    match naturalOf? 10 ds with
    | some n => .number (signed negative n)
    | none => .absent
  else if ds.all fun c => (digitValue? 10 c).isSome then .tooLong
  else .absent

/-- Reads a numeral of either kind; no blanks may stand around it. -/
def read (t : Text) : Reading :=
  match (afterHexMark? t).bind (naturalOf? 16) with
  | some n => .number n
  | none => readDecimal t

end Numeral

/-! ### Writing -/

/-- The digits of `n` in base `b`, the most significant first. -/
def digitsText (b n : Nat) : Text := (Nat.toDigits b n).map CodePoint.ofChar

/-- The sign of a numeral: nothing stands in front of a number that is not negative. -/
def signText (n : Int) : Text := if n < 0 then "-" else ""

def decimalText (n : Int) : Text := signText n ++ digitsText 10 n.natAbs

def hexText (n : Nat) : Text := "0x" ++ digitsText 16 n

/-- The hexadecimal numeral of an integer: a minus sign stands in front of the mark. -/
def signedHexText (n : Int) : Text := signText n ++ hexText n.natAbs

/-- The decimal numeral of an integer, unless it has more than `digitLimit` digits. -/
def decimalText? (n : Int) : Option Text :=
  if (digitsText 10 n.natAbs).length ≤ digitLimit then some (decimalText n) else none

/-- A number has no more digits than an exponent says exactly if it is below that power of the
base. -/
theorem length_digitsText_le_iff {b n k : Nat} (hb : 1 < b) (hk : 0 < k) :
    (digitsText b n).length ≤ k ↔ n < b ^ k := by
  rw [digitsText, List.length_map]
  exact Nat.length_toDigits_le_iff hb hk

/-- At least `width` digits of `n` in base sixteen. -/
def paddedHex (width n : Nat) : Text :=
  let ds := digitsText 16 n
  List.replicate (width - ds.length) (CodePoint.ofChar '0') ++ ds

end ScriptTutor
