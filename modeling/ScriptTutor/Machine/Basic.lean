/-
**The machine that runs scripts.**

Main definitions:

* `ScriptTutor.Machine` — two stacks and the open branches;
* `ScriptTutor.Machine.perform` — what the opcode of a name does to the machine;
* `ScriptTutor.Machine.obey` — what an instruction does to it;
* `ScriptTutor.Machine.step` — one value of a program, with the step that it leaves.

Main results:

* `ScriptTutor.Machine.obey_literal` — a literal is pushed, unless it is skipped.
-/

import ScriptTutor.Branches
import ScriptTutor.Catalog
import ScriptTutor.Instruction
import ScriptTutor.Journal
import ScriptTutor.Opcode.Dispatch

set_option relaxedAutoImplicit false
set_option autoImplicit false

namespace ScriptTutor

/-- The state of a run: two stacks and the open branches. -/
structure Machine extends Stacks where
  branches : Branches
  deriving DecidableEq

namespace Machine

def start : Machine := ⟨⟨[], []⟩, []⟩

def executing (m : Machine) : Bool := m.branches.executing

/-- Opens a conditional.  An executing machine takes the item off that decides it, and needs one;
a skipping machine opens a conditional of which neither arm is executed. -/
def openBranch (expected : Bool) (name : Text) (m : Machine) : Except Fault Unit × Machine :=
  if m.executing then
    match m.main with
    | x :: rest =>
      (.ok (), { m with main := rest, branches := m.branches.enter (x.isTrue == expected) })
    | [] => (.error (.failure (.underflow 1 0 name)), m)
  else (.ok (), { m with branches := m.branches.enter false })

/-- Puts new branches in place of the old ones, unless there is a failure. -/
def setBranches (bs : Except Failure Branches) (m : Machine) : Except Fault Unit × Machine :=
  match bs with
  | .ok bs => (.ok (), { m with branches := bs })
  | .error f => (.error (.failure f), m)

def flow (name : Text) (m : Machine) : Flow → Except Fault Unit × Machine
  | .onTrue => openBranch true name m
  | .onFalse => openBranch false name m
  | .otherwise => setBranches m.branches.switch m
  | .close => setBranches m.branches.leave m

/-- What an operation does once its entry is found: nothing in a skipped place, unless it always
runs; otherwise the items that it needs have to be there. -/
def operate (d : DispatchEntry) (o : Operation) (m : Machine) : Except Fault Unit × Machine :=
  if m.executing || o.alwaysRuns then
    if m.main.length < d.minItems then
      (.error (.failure (.underflow d.minItems m.main.length d.name)), m)
    else
      let r := o.run m.toStacks
      (r.1, { m with toStacks := r.2 })
  else (.ok (), m)

/-- What the opcode of a name does.  A name that the catalog disables, or that nothing stands
behind, fails in a skipped place as well. -/
def perform (name : Text) (m : Machine) : Except Fault Unit × Machine :=
  if (Catalog.find? name).any (!·.enabled) then (.error (.failure (.disabled name)), m)
  else
    match Dispatch.find? name with
    | none => (.error (.failure (.unknown name)), m)
    | some d =>
      match d.opcode with
      | .flow f => flow name m f
      | .operation o => operate d o m

def obey (i : Instruction) (m : Machine) : Except Fault Unit × Machine :=
  match i with
  | .literal x => (.ok (), if m.executing then { m with main := x :: m.main } else m)
  | .opcode name => perform name m

/-- The step of an instruction that finds the first machine and leaves the second. -/
def record (i : Instruction) (m m' : Machine) (failure : Option Failure) : Step :=
  ⟨i.label, m.main.snapshot, m'.main.snapshot, failure.isNone, failure.map Failure.message⟩

/-- One instruction, and the step that it leaves.  A failure of the script stands in the step.  A
label or a remark that cannot be written would be a fault: the label is written before the
instruction is obeyed, and the remark when its two operands have been taken off. -/
def stepInstruction (i : Instruction) (m : Machine) : Except Fault Step × Machine :=
  match i.printLabel with
  | .error e => (.error e, m)
  | .ok _ =>
    match obey i m with
    | (.ok (), m') =>
      match Journal.remarks (record i m m' none) with
      | .ok _ => (.ok (record i m m' none), m')
      | .error e => (.error e, { m' with main := m.main.drop 2 })
    | (.error (.failure f), m') => (.ok (record i m m' (some f)), m')
    | (.error e, m') => (.error e, m')

/-- One value of a program as an instruction; a value that is none changes nothing. -/
def step (v : Value) (m : Machine) : Except Fault Step × Machine :=
  match Instruction.ofValue v with
  | .ok i => stepInstruction i m
  | .error e => (.error e, m)

theorem obey_literal (x : Item) (m : Machine) :
    obey (.literal x) m = (.ok (), if m.executing then { m with main := x :: m.main } else m) :=
  rfl

end Machine

end ScriptTutor
