/-
**Capitals, and names compared without regard to case.**

An opcode is named in any letter case: its name is put in capitals first.  Capitals follow the
full mapping of Unicode, letter by letter, so that one letter may become several.  The name of a
template is compared in lower case, where it is enough to know the letters whose lower case lies
in ASCII, since the names of templates do.
-/

import ScriptTutor.Basic
import ScriptTutor.Text.LetterCase.Table

set_option relaxedAutoImplicit false
set_option autoImplicit false

namespace ScriptTutor

/-! ### Capitals -/

/-- The capital of a letter, which may have several code points; all else stands for itself. -/
def CodePoint.capital (c : CodePoint) : Text :=
  if c.val < 0x80 then
    if 97 ≤ c.val ∧ c.val ≤ 122 then [c - 32] else [c]
  else
    match LetterCase.expansions.lookup c.val with
    | some t => t.map (Fin.ofNat _)
    | none =>
      match LetterCase.runs.findSome? (·.capital? c.val) with
      | some d => [Fin.ofNat _ d]
      | none => [c]

def Text.upper (t : Text) : Text := t.flatMap CodePoint.capital

theorem CodePoint.capital_of_lt {c : CodePoint} (h : c.val < 0x80) :
    c.capital = if 97 ≤ c.val ∧ c.val ≤ 122 then [c - 32] else [c] := by
  rw [CodePoint.capital, if_pos h]

@[simp] theorem Text.upper_nil : Text.upper [] = [] := rfl

@[simp] theorem Text.upper_cons (c : CodePoint) (t : Text) :
    Text.upper (c :: t) = c.capital ++ Text.upper t := rfl

/-! ### Lower case -/

/-- The lower case of a letter as far as it lies in ASCII.  Outside ASCII that is so for the
Kelvin sign alone. -/
def CodePoint.lowerAscii (c : CodePoint) : CodePoint :=
  if 65 ≤ c.val ∧ c.val ≤ 90 then c + 32 else if c.val = 0x212A then 'k' else c

def Text.lowerAscii (t : Text) : Text := t.map CodePoint.lowerAscii

end ScriptTutor
