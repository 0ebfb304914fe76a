/-
**The lines of the journal.**

While scripts run, three parts of the library write debug lines: the machine, the simulated check
of signatures, and the exercises.  A line is put together whether or not somebody reads it, so a
line that cannot be written would end a run.

Main definitions:

* `ScriptTutor.Journal.Line` — a line with its source;
* `ScriptTutor.Journal.remarks`, `ScriptTutor.Journal.failureLine`,
  `ScriptTutor.Journal.verdictLine` — the lines about a step, and about a report.

Main results:

* `ScriptTutor.Journal.exists_remarks`, `ScriptTutor.Journal.exists_verdictLine` — **every line can
  be written**.
-/

import ScriptTutor.Report

set_option relaxedAutoImplicit false
set_option autoImplicit false

namespace ScriptTutor.Journal

inductive Source where
  | engine
  | signatures
  | challenges
  deriving DecidableEq

def Source.name : Source → Text
  | engine => "stacklab.script.script_engine"
  | signatures => "stacklab.script.opcodes.crypto"
  | challenges => "stacklab.lab.challenges"

structure Line where
  source : Source
  message : Text
  deriving DecidableEq

def Line.toText (l : Line) : Text := "DEBUG " ++ l.source.name ++ " " ++ l.message

/-! ### Steps -/

/-- The signature and the key that a step has checked: a check that is executed takes them off the
stack, and a check that is skipped leaves the stack as it is. -/
def checkedSignature? (s : Step) : Option (Item × Item) :=
  if (s.label = "OP_CHECKSIG" ∨ s.label = "OP_CHECKSIGVERIFY") ∧ s.success = true ∧
      s.after.length < s.before.length then
    match s.before.reverse with
    | key :: sig :: _ => some (sig, key)
    | _ => none
  else none

def signatureLine (sig key : Item) : Except Fault Line :=
  match Display.printItem .single sig, Display.printItem .single key with
  | .ok sig, .ok key =>
    .ok ⟨.signatures, "Simulated OP_CHECKSIG for sig=" ++ sig ++ ", pubkey=" ++ key⟩
  | .error e, _ => .error e
  | _, .error e => .error e

/-- What an opcode says of its operands while it runs; only a check of a signature says
something. -/
def remarks (s : Step) : Except Fault (List Line) :=
  match checkedSignature? s with
  | some (sig, key) => (signatureLine sig key).map ([·])
  | none => .ok []

/-- The line about a step that failed, at the given position.  No list is so long that a position in
it would have too many digits. -/
def failureLine (position : Nat) (s : Step) : Line :=
  ⟨.engine, "Step " ++ decimalText position ++ " (" ++ s.label ++ ") failed: " ++ s.error.getD []⟩

theorem exists_remarks (s : Step) : ∃ lines, remarks s = .ok lines := by
  rw [remarks]
  split
  · next sig key _ =>
      rw [signatureLine, Display.printItem_eq, Display.printItem_eq]
      exact ⟨_, rfl⟩
  · exact ⟨_, rfl⟩

def ofStep (position : Nat) (s : Step) : List Line :=
  (remarks s).toOption.getD [] ++ if s.success then [] else [failureLine position s]

def ofSteps (steps : List Step) : List Line := (steps.mapIdx ofStep).flatten

/-! ### Reports -/

def verdictLine (r : Report) : Except Fault Line :=
  (Display.printStack r.finalStack).map fun stack =>
    ⟨.engine, "Script " ++ (if r.success then ("valid" : Text) else "invalid") ++
      "; final stack " ++ stack⟩

theorem exists_verdictLine (r : Report) : ∃ line, verdictLine r = .ok line := by
  obtain ⟨stack, hstack⟩ := Display.exists_printStack r.finalStack
  rw [verdictLine, hstack]
  exact ⟨_, rfl⟩

end ScriptTutor.Journal
