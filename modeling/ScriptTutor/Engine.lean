/-
**The engine: runs, reports and verdicts.**

An engine is a machine together with the steps of its last run.  A run starts afresh, so what an
engine has done before does not matter to it.  The verdict on a run looks at the machine at its
end: a script is valid only if no instruction failed, no conditional is open, and a true item lies
on top.

Main definitions:

* `ScriptTutor.Engine` — a machine with the steps of its last run;
* `ScriptTutor.Engine.verdict` — the report on what an engine has done;
* `ScriptTutor.Engine.execute`, `ScriptTutor.Engine.executePair` — a program, and two scripts run
  as one program;
* `ScriptTutor.execute` — a program on a new engine.

Main results:

* `ScriptTutor.Engine.execute_list` — **a run does not depend on the engine**;
* `ScriptTutor.Engine.verdict_success` — a report is a success exactly if it has no error.
-/

import ScriptTutor.Machine.Run

set_option relaxedAutoImplicit false
set_option autoImplicit false

namespace ScriptTutor

/-- A machine with the steps of its last run. -/
structure Engine extends Machine where
  steps : List Step
  deriving DecidableEq

namespace Engine

/-- An engine that has done nothing, or has forgotten what it did. -/
def fresh : Engine := ⟨Machine.start, []⟩

def stack (e : Engine) : List Item := e.main.snapshot

/-! ### Verdicts -/

/-- What is wrong with the machine at the end of a run in which nothing failed: a conditional is
open, the stack is empty, or its top is false, in this order. -/
def objection? (m : Machine) : Option Text :=
  match m.branches, m.main with
  | _ :: _, _ => some "Unbalanced conditional: missing OP_ENDIF"
  | [], [] => some "Script invalid: stack is empty"
  | [], x :: _ => if x.isTrue then none else some "Script invalid: top stack item is false"

/-- The report on what the engine has done, given the error that ended it, if one did. -/
def verdict (error : Option Text) (e : Engine) : Report :=
  let error := error.or (objection? e.toMachine)
  ⟨error.isNone, e.stack, e.steps, error⟩

/-- A report is a success exactly if it has no error. -/
@[simp] theorem verdict_success (error : Option Text) (e : Engine) :
    (e.verdict error).success = (e.verdict error).error.isNone := rfl

@[simp] theorem verdict_steps (error : Option Text) (e : Engine) :
    (e.verdict error).steps = e.steps := rfl

@[simp] theorem verdict_finalStack (error : Option Text) (e : Engine) :
    (e.verdict error).finalStack = e.main.snapshot := rfl

/-! ### Runs -/

/-- A report is handed out once the line about it stands in the journal. -/
def announce (r : Report) : Except Fault Report := (Journal.verdictLine r).map fun _ => r

theorem announce_eq (r : Report) : announce r = .ok r := by
  obtain ⟨line, hline⟩ := Journal.exists_verdictLine r
  rw [announce, hline]
  rfl

/-- The engine after a run, and the report on it, unless the run came to a value that is no
instruction. -/
def conclude (r : Machine.Run) : Except Fault Report × Engine :=
  let e : Engine := ⟨r.machine, r.steps⟩
  match r.ending with
  | .finished => (announce (e.verdict none), e)
  | .failed error => (announce (e.verdict error), e)
  | .faulted fault => (.error fault, e)

/-- There is a report on every run without a fault. -/
theorem conclude_eq (r : Machine.Run) :
    conclude r =
      match r.ending with
      | .finished => (.ok (verdict none ⟨r.machine, r.steps⟩), ⟨r.machine, r.steps⟩)
      | .failed error => (.ok (verdict error ⟨r.machine, r.steps⟩), ⟨r.machine, r.steps⟩)
      | .faulted fault => (.error fault, ⟨r.machine, r.steps⟩) := by
  simp only [conclude, announce_eq]

/-- Runs a list of values on a machine that starts afresh. -/
def executeList (program : List Value) : Except Fault Report × Engine :=
  conclude (Machine.run program Machine.start)

/-- Runs a program.  A text or a byte string is no program and leaves the engine as it is; any
other value is walked through after the engine has forgotten what it did. -/
def execute (program : Value) (e : Engine) : Except Fault Report × Engine :=
  match program with
  | .item (.text _) => (.error .notAProgram, e)
  | .item (.bytes _) => (.error .notAProgram, e)
  | v =>
    match v.elements with
    | .ok vs => executeList vs
    | .error fault => (.error fault, fresh)

/-- Runs an unlocking script and then a locking script, as one program. -/
def executePair (unlocking locking : Value) (e : Engine) : Except Fault Report × Engine :=
  match unlocking.elements, locking.elements with
  | .ok us, .ok ls => executeList (us ++ ls)
  | .error fault, _ => (.error fault, e)
  | _, .error fault => (.error fault, e)

def validates (program : Value) (e : Engine) : Except Fault Bool × Engine :=
  let r := e.execute program
  (r.1.map (·.success), r.2)

/-- Takes one instruction and does not note it among the steps. -/
def step (v : Value) (e : Engine) : Except Fault Step × Engine :=
  let r := e.toMachine.step v
  (r.1, { e with toMachine := r.2 })

/-- **A run does not depend on the engine.** -/
@[simp] theorem execute_list (program : List Value) (e : Engine) :
    e.execute (.list program) = executeList program := rfl

@[simp] theorem executePair_lists (us ls : List Value) (e : Engine) :
    e.executePair (.list us) (.list ls) = executeList (us ++ ls) := rfl

/-- The lines that a run leaves in the journal; a run without a report has no verdict. -/
def journal (r : Except Fault Report × Engine) : List Journal.Line :=
  Journal.ofSteps r.2.steps ++
    match r.1.bind Journal.verdictLine with
    | .ok line => [line]
    | .error _ => []

end Engine

/-- The report on a program, run on a new engine. -/
def execute (program : List Value) : Except Fault Report := (Engine.executeList program).1

end ScriptTutor
