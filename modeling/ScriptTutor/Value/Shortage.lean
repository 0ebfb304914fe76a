/-
**Shortages in the words of a caller.**

A caller says how many items are needed, on behalf of which operation, and may say it by any value.

Main definition:

* `ScriptTutor.Value.shortageText` — the wording of an underflow with the values of a caller.

Main result:

* `ScriptTutor.Value.shortageText_ofNat` — with numbers and a name, it is the wording of the
  underflow of a script.
-/

import ScriptTutor.Value.Reading

set_option relaxedAutoImplicit false
set_option autoImplicit false

namespace ScriptTutor.Value

/-- The name of an operation; a value that counts as false names none. -/
def operationText (operation : Value) : Except Fault Text :=
  match operation.holds with
  | .ok true => operation.plain
  | .ok false => .ok anonymousOperation
  | .error e => .error e

/-- The wording of an underflow with the values of a caller. -/
def shortageText (required found operation : Value) : Except Fault Text :=
  match operation.operationText, required.plain, found.plain with
  | .ok name, .ok m, .ok n => .ok (underflowText name m n (required.equals 1))
  | .error e, _, _ => .error e
  | _, .error e, _ => .error e
  | _, _, .error e => .error e

def ofNat (n : Nat) : Value := item (.number n)

theorem plain_ofNat {n : Nat} {t : Text} (h : decimalText? n = some t) :
    (ofNat n).plain = .ok t := by
  have : (ofNat n).plain = (Item.number n).quote := by simp only [ofNat, plain, quote]
  rw [this, Item.quote_number h]

theorem equals_ofNat (m : Nat) : (ofNat m).equals 1 = (m == 1) := by
  have h : compare (m : Int) 1 = compareOfLessAndEq (m : Int) 1 := rfl
  simp only [ofNat, equals, compareTo, h, compareOfLessAndEq]
  by_cases h0 : m = 0
  · simp [h0]
  · by_cases h1 : m = 1
    · simp [h1]
    · have : ¬ (m : Int) < 1 := by omega
      have : ¬ (m : Int) = 1 := by omega
      simp [*]

/-- With numbers that have a decimal text and a name, the wording is that of the underflow of a
script. -/
theorem shortageText_ofNat {required found : Nat} (name : Text)
    (hr : decimalText? required = some (decimalText required))
    (hf : decimalText? found = some (decimalText found)) :
    shortageText (ofNat required) (ofNat found) (item (.text name)) =
      .ok (Failure.underflow required found name).message := by
  have hn : (item (.text name)).operationText =
      .ok (if name = [] then anonymousOperation else name) := by
    cases name <;> rfl
  simp only [shortageText, hn, plain_ofNat hr, plain_ofNat hf, equals_ofNat, Failure.message]

end ScriptTutor.Value
