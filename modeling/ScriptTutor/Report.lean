/-
**Steps and reports.**

Every instruction that a script comes to leaves a step, which shows the stack before and after.  A
report collects the steps of a run and its outcome.

Main definitions:

* `ScriptTutor.Step`, `ScriptTutor.Report` — what a run leaves behind;
* `ScriptTutor.Report.failedStep?` — the step at which a run stopped;
* `ScriptTutor.Item.portable` — an item as other programs can read it;
* `ScriptTutor.Report.toDocument`, `ScriptTutor.Report.toText` — a report for other programs.
-/

import ScriptTutor.Display.Basic
import ScriptTutor.Document.Basic

set_option relaxedAutoImplicit false
set_option autoImplicit false

namespace ScriptTutor

/-- What an instruction did; the stacks are shown bottom first. -/
structure Step where
  /-- The name of the opcode, or the literal that is pushed. -/
  label : Text
  before : List Item
  after : List Item
  success : Bool
  error : Option Text
  deriving DecidableEq

structure Report where
  success : Bool
  finalStack : List Item
  steps : List Step
  error : Option Text
  deriving DecidableEq

namespace Report

/-- The position of the last step, if that step failed. -/
def failedStep? (r : Report) : Option Nat :=
  match r.steps.getLast? with
  | some s => if s.success then none else some (r.steps.length - 1)
  | none => none

end Report

/-! ### Items for other programs -/

/-- An item as other programs can read it: byte strings and wide integers become texts. -/
def Item.portable : Item → Item
  | .bytes bs => .text ("0x" ++ bs.toHex)
  | .number n => if isWide n then .text (signedHexText n) else .number n
  | x => x

/-- A value as other programs can read it, as far as it is an item. -/
def Value.portable : Value → Value
  | .item x => .item x.portable
  | v => v

/-- The document of an item as it is; a byte string is written in digits. -/
def Document.ofItem : Item → Document
  | .number n => .number n
  | .flag b => .flag b
  | .text t => .text t
  | .bytes bs => .text bs.toHex

/-- The document of an item as other programs can read it. -/
def Item.toDocument (x : Item) : Document := Document.ofItem x.portable

def Document.ofStack (xs : List Item) : Document := .list (xs.map Item.toDocument)

/-- The field of an error, which is there only if there is an error. -/
def Document.errorField : Option Document → List (Text × Document)
  | some error => [("error", error)]
  | none => []

def Document.ofStep (label before after success : Document) (error : Option Document) :
    Document :=
  .record (("op_code", label) :: ("stack_before", before) :: ("stack_after", after) ::
    ("success", success) :: Document.errorField error)

def Document.ofReport (success finalStack steps : Document) (error : Option Document) :
    Document :=
  .record (("success", success) :: ("final_stack", finalStack) :: ("steps", steps) ::
    Document.errorField error)

def Step.toDocument (s : Step) : Document :=
  .ofStep (.text s.label) (.ofStack s.before) (.ofStack s.after) (.flag s.success)
    (s.error.map .text)

namespace Report

def toDocument (r : Report) : Document :=
  .ofReport (.flag r.success) (.ofStack r.finalStack) (.list (r.steps.map Step.toDocument))
    (r.error.map .text)

def toText (r : Report) : Text := r.toDocument.toText

end Report

/-! ### Stacks by depth -/

namespace Stack

/-- The items of a stack as other programs can read them, each with its depth; the top is at
depth zero. -/
def byDepth (s : List Item) : List (Nat × Item) :=
  s.mapIdx fun depth x => (depth, x.portable)

def toText (s : List Item) : Text :=
  (Document.record (s.mapIdx fun depth x => (decimalText depth, x.toDocument))).toText

end Stack

end ScriptTutor
