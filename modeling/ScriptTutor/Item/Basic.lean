/-
**Stack items.**

An item is a number, a truth value, a text or a byte string.  The truth of an item decides branches,
verifications and the outcome of a script.
-/

import ScriptTutor.Bytes

set_option relaxedAutoImplicit false
set_option autoImplicit false

namespace ScriptTutor

/-- What may lie on the stack. -/
inductive Item where
  /-- An integer of any size. -/
  | number (n : Int)
  /-- A truth value; it is no number, although it counts as zero or one. -/
  | flag (b : Bool)
  | text (t : Text)
  | bytes (bs : Bytes)
  deriving DecidableEq

namespace Item

/-- The truth of an item: zero, the false flag, and what has no content are false. -/
def isTrue : Item → Bool
  | number n => n != 0
  | flag b => b
  | text t => !t.isEmpty
  | bytes bs => !bs.isEmpty

/-- The number that stands for a truth value: one or zero. -/
def ofTruth (b : Bool) : Item := number (if b then 1 else 0)

@[simp] theorem isTrue_ofTruth (b : Bool) : (ofTruth b).isTrue = b := by
  cases b <;> rfl

end Item

end ScriptTutor
