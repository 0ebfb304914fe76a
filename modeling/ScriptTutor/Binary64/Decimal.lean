/-
**Binary fractions and decimals.**

A decimal is read as the nearest binary fraction.  A binary fraction is shown by the decimal with
the fewest digits that reads back as the same fraction, and by the nearest one of these.  It is
found by exact arithmetic: for one digit, two digits and so on, the two decimals next to the
fraction are tried.

Main definitions:

* `ScriptTutor.Binary64.ofText?` — the number nearest to what a text denotes;
* `ScriptTutor.Binary64.shortest` — the decimal that a fraction is shown by;
* `ScriptTutor.Binary64.shown`, `ScriptTutor.Binary64.hexShown` — a number as decimal and as
  hexadecimal text.
-/

import ScriptTutor.Binary64.Basic
import ScriptTutor.Text.LetterCase

set_option relaxedAutoImplicit false
set_option autoImplicit false

namespace ScriptTutor

/-- The digits, as a natural, times ten to the exponent. -/
structure Decimal where
  digits : Nat
  exponent : Int
  deriving DecidableEq

def Decimal.strip (d : Decimal) : Decimal :=
  if d.digits ≠ 0 ∧ d.digits % 10 = 0 then strip ⟨d.digits / 10, d.exponent + 1⟩ else d
termination_by d.digits
decreasing_by omega

namespace Binary64

/-! ### Reading -/

/-- The number nearest to a natural times ten to the given power; powers far out of range are not
computed. -/
def ofDecimal (negative : Bool) (n : Nat) (power : Int) : Binary64 :=
  let magnitude : Int := power + (Nat.toDigits 10 n).length
  if n = 0 ∨ magnitude < -400 then finite negative 0 leastExponent
  else if 400 < magnitude then infinite negative
  else nearest negative (n * 10 ^ power.toNat) (10 ^ (-power).toNat)

/-- The words for numbers that are not finite, in any letter case. -/
def word? (negative : Bool) (t : Text) : Option Binary64 :=
  if t = Text.ofString "inf" ∨ t = Text.ofString "infinity" then some (infinite negative)
  else if t = Text.ofString "nan" then some undefined
  else none

/-- The integer that an exponent denotes. -/
def exponentOf? (t : Text) : Option Int :=
  let (negative, ds) := splitSign t
  (naturalOf? 10 ds).map (signed negative)

/-- The number nearest to what a text denotes: digits with or without a point and an exponent, or
a word. -/
def ofText? (t : Text) : Option Binary64 :=
  let (negative, body) := splitSign t
  match word? negative body.lowerAscii with
  | some x => some x
  | none =>
    let isMark (c : CodePoint) : Bool := c == CodePoint.ofChar 'e' || c == CodePoint.ofChar 'E'
    let number := body.takeWhile (!isMark ·)
    let whole := number.takeWhile (· != CodePoint.ofChar '.')
    let part := (number.drop whole.length).drop 1
    let exponent := match body.drop number.length with
      | [] => some 0
      | _ :: t => exponentOf? t
    match naturalOf? 10 (whole ++ part), exponent with
    | some n, some power => some (ofDecimal negative n (power - part.length))
    | _, _ => none

/-! ### The shortest decimal -/

/-- How a decimal compares with a natural times two to the given power. -/
def compareDecimal (d : Decimal) (n : Nat) (e : Int) : Ordering :=
  compare (d.digits * 10 ^ d.exponent.toNat * 2 ^ (-e).toNat)
    (n * 2 ^ e.toNat * 10 ^ (-d.exponent).toNat)

/-- Whether a decimal is nearer to the fraction than to any other one.  The fraction below a power
of two is only half as far away as the one above, and a decimal halfway between two fractions
belongs to the one with the even significand. -/
def readsBack (m : Nat) (e : Int) (d : Decimal) : Bool :=
  let low := if m = 2 ^ 52 ∧ leastExponent < e then 4 * m - 1 else 4 * m - 2
  let atEnd := m % 2 == 0
  let above := compareDecimal d low (e - 2)
  let below := compareDecimal d (4 * m + 2) (e - 2)
  (above == .gt || (atEnd && above == .eq)) && (below == .lt || (atEnd && below == .eq))

/-- The number of decimal digits before the point; it is negative if zeros follow the point. -/
def magnitude (num den : Nat) : Int :=
  let k : Int := (Nat.toDigits 10 num).length - (Nat.toDigits 10 den).length
  if num * 10 ^ (-k).toNat < den * 10 ^ k.toNat then k else k + 1

/-- The better one of the two decimals next to a fraction among the multiples of a power of ten,
if it reads back. -/
def candidate? (m : Nat) (e power : Int) : Option Decimal :=
  let num := m * 2 ^ e.toNat * 10 ^ (-power).toNat
  let den := 2 ^ (-e).toNat * 10 ^ power.toNat
  let low := num / den
  let first := readsBack m e ⟨low, power⟩
  let second := readsBack m e ⟨low + 1, power⟩
  if first && second then some ⟨roundedQuotient num den, power⟩
  else if first then some ⟨low, power⟩
  else if second then some ⟨low + 1, power⟩
  else none

/-- The decimal with the fewest digits that reads back; seventeen digits are always enough. -/
def shortest (m : Nat) (e : Int) : Decimal :=
  let k := magnitude (m * 2 ^ e.toNat) (2 ^ (-e).toNat)
  let found := (List.range 17).findSome? fun i : Nat => candidate? m e (k - (i + 1))
  (found.getD ⟨m * 2 ^ e.toNat * 5 ^ (-e).toNat, -(-e).toNat⟩).strip

/-! ### Writing -/

def zeros (n : Nat) : Text := List.replicate n (CodePoint.ofChar '0')

/-- A sign and at least as many digits of an exponent. -/
def exponentText (width : Nat) (n : Int) : Text :=
  let ds := digitsText 10 n.natAbs
  (if n < 0 then ("-" : Text) else "+") ++ zeros (width - ds.length) ++ ds

/-- A decimal with a point.  An exponent is written if the leading digit stands for ten to the
power of 16 or more, or of less than -4. -/
def layout (d : Decimal) : Text :=
  let ds := digitsText 10 d.digits
  let point : Int := ds.length + d.exponent
  if -4 < point ∧ point ≤ 16 then
    if point ≤ 0 then "0." ++ zeros (-point).toNat ++ ds
    else if point < ds.length then ds.take point.toNat ++ "." ++ ds.drop point.toNat
    else ds ++ zeros (point.toNat - ds.length) ++ ".0"
  else
    ds.take 1 ++ (if 1 < ds.length then "." ++ ds.drop 1 else []) ++ "e" ++
      exponentText 2 (point - 1)

def signShown (negative : Bool) : Text := if negative then "-" else ""

def shown : Binary64 → Text
  | finite negative m e =>
    signShown negative ++ (if m = 0 then ("0.0" : Text) else layout (shortest m e))
  | infinite negative => signShown negative ++ "inf"
  | undefined => "nan"

/-- A number as hexadecimal text: the leading bit of the significand, the others in thirteen
digits, and the power of two. -/
def hexShown : Binary64 → Text
  | finite negative m e =>
    signShown negative ++
      if m = 0 then ("0x0.0p+0" : Text)
      else hexText (m / 2 ^ 52) ++ "." ++ paddedHex 13 (m % 2 ^ 52) ++ "p" ++
        exponentText 1 (e + 52)
  | x => x.shown

end Binary64

end ScriptTutor
