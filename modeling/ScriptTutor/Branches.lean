/-
**Open branches.**

Every conditional that a script has opened and not yet closed is a frame.  A script executes an
instruction only if the innermost frame is active.  A frame that was opened while nothing was
executed stays inactive, whatever its own condition, so its other arm is skipped as well.
-/

import ScriptTutor.Failure

set_option relaxedAutoImplicit false
set_option autoImplicit false

namespace ScriptTutor

/-- An open conditional. -/
structure Frame where
  /-- Whether the present arm is the one that was chosen. -/
  condition : Bool
  /-- Whether instructions were executed when the conditional was opened. -/
  enclosingActive : Bool
  /-- Whether the present arm is the second one. -/
  elseSeen : Bool
  deriving DecidableEq

/-- Whether the instructions of the present arm are executed. -/
def Frame.active (f : Frame) : Bool := f.enclosingActive && f.condition

/-- The open conditionals, innermost first. -/
abbrev Branches := List Frame

namespace Branches

/-- Whether instructions are executed: outside all conditionals, or in an active one. -/
def executing : Branches → Bool
  | [] => true
  | f :: _ => f.active

def enter (condition : Bool) (bs : Branches) : Branches := ⟨condition, bs.executing, false⟩ :: bs

/-- Goes over to the other arm of the innermost conditional; there are two arms at most. -/
def switch : Branches → Except Failure Branches
  | [] => .error .elseWithoutIf
  | f :: bs =>
    if f.elseSeen then .error .secondElse
    else .ok (⟨!f.condition, f.enclosingActive, true⟩ :: bs)

def leave : Branches → Except Failure Branches
  | [] => .error .endifWithoutIf
  | _ :: bs => .ok bs

@[simp] theorem executing_nil : executing [] = true := rfl

@[simp] theorem executing_cons (f : Frame) (bs : Branches) : executing (f :: bs) = f.active := rfl

/-- A conditional is active at once exactly if it is opened in an executing place on a true
condition. -/
theorem executing_enter (c : Bool) (bs : Branches) :
    (bs.enter c).executing = (bs.executing && c) := rfl

end Branches

end ScriptTutor
