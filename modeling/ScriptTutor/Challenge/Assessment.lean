/-
**Answers assessed.**

An answer is assessed by running the scripts, so that a learner gets the verdict of the machine.
The answer that the author of a challenge expected is never consulted.

Main definitions:

* `ScriptTutor.Assessment` — whether a challenge is solved, and what the learner is told;
* `ScriptTutor.Task.assess` — the assessment of an answer, given the report on its run;
* `ScriptTutor.Challenge.validate` — runs the scripts of an answer and assesses it.
-/

import ScriptTutor.Challenge.Basic
import ScriptTutor.Engine

set_option relaxedAutoImplicit false
set_option autoImplicit false

namespace ScriptTutor

/-- What a learner is told. -/
structure Assessment where
  solved : Bool
  message : Text
  steps : List Step
  /-- The outcome of the run, where the learner may know it. -/
  executionSuccess : Option Bool
  executionError : Option Text
  deriving DecidableEq

namespace Assessment

/-- An assessment of which nothing was run. -/
def unsolved (message : Text) : Assessment := ⟨false, message, [], none, none⟩

def withOutcome (solved : Bool) (message : Text) (r : Report) : Assessment :=
  ⟨solved, message, r.steps, some r.success, r.error⟩

def withSteps (solved : Bool) (message : Text) (r : Report) : Assessment :=
  ⟨solved, message, r.steps, none, none⟩

/-- What is said about the validity of a script. -/
def validityMessage (r : Report) : Text :=
  if r.success then "Correct! The script validates."
  else
    match r.error with
    | some (c :: t) => c :: t
    | _ => "Script did not validate."

/-- What is said about a guess at the validity of a script. -/
def guessMessage (solved : Bool) (r : Report) : Text :=
  if solved then "Correct!" else if r.success then "Script is valid." else "Script is invalid."

/-- An answer that leaves the two scripts to be judged by their outcome. -/
def ofReport (r : Report) : Assessment := withOutcome r.success (validityMessage r) r

/-- What is said about a final stack, and whether it was reached. -/
def ofGoal (goal : Value) (r : Report) : Except Fault Assessment :=
  match goal.elements with
  | .error e => .error e
  | .ok expected =>
    if r.success then
      match Value.stacksEqual (r.finalStack.map .item) expected with
      | .error e => .error e
      | .ok true => .ok (withOutcome true "Correct! Script validates and final stack matches." r)
      | .ok false =>
        match Display.printStack r.finalStack, Display.values expected with
        | .error e, _ => .error e
        | _, .error e => .error e
        | .ok final, .ok goal =>
          .ok (withOutcome false ("Final stack was " ++ final ++ "; expected " ++ goal ++ ".") r)
    else .ok (withOutcome false (validityMessage r) r)

/-- Whether a value is a list that shows the given stack, bottom first. -/
def showsStack (answer : Value) (xs : List Item) : Except Fault Bool :=
  match answer with
  | .list vs => Value.stacksEqual vs (xs.map .item)
  | .tuple vs => Value.stacksEqual vs (xs.map .item)
  | _ => .ok false

/-- The step at a position, if there is a position and it lies in the trace.  A position in the
trace has to be a count. -/
def stepAt (position : Value) (steps : List Step) : Except Fault (Option Step) :=
  match position with
  | .absent => .ok none
  | v =>
    match v.isBelow 0, v.isBelow steps.length with
    | .ok false, .ok true => v.count.map fun i => steps[i.toNat]?
    | .ok _, .ok _ => .ok none
    | .error e, _ => .error e
    | _, .error e => .error e

/-- What is said about an answer that should show a stack. -/
def ofStack (solved : Bool) (xs : List Item) (r : Report) : Except Fault Assessment :=
  if solved then .ok (withSteps true "Correct!" r)
  else (Display.printStack xs).map fun t => withSteps false ("Expected stack " ++ t ++ ".") r

/-- What is said about the answer to a question. -/
def ofQuestion (question : Question) (answer : Value) (r : Report) : Except Fault Assessment :=
  match question with
  | .validity =>
    let solved := match answer with
      | .item (.flag b) => b == r.success
      | _ => false
    .ok (withSteps solved (guessMessage solved r) r)
  | .stackAfter position =>
    match stepAt position r.steps with
    | .error e => .error e
    | .ok none => .ok (withSteps false "Step index out of range." r)
    | .ok (some step) =>
      match showsStack answer step.after with
      | .error e => .error e
      | .ok solved => ofStack solved step.after r

/-- What is said about a prediction. -/
def ofPrediction (valid : Value) (r : Report) : Assessment :=
  let solved := valid.isTruth r.success
  withOutcome solved (guessMessage solved r) r

end Assessment

/-- The assessment of an answer, given the report on the scripts that it has run. -/
def Task.assess (t : Task) (a : Answer) (r : Report) : Except Fault Assessment :=
  match t, a with
  | .outcome (some goal) _, _ => Assessment.ofGoal goal r
  | .trace _ _ question _, .traced answer => Assessment.ofQuestion question answer r
  | .predict .., .predicted valid => .ok (Assessment.ofPrediction valid r)
  | _, _ => .ok (Assessment.ofReport r)

namespace Challenge

/-- The assessment of an answer to another kind of task. -/
def mismatch (c : Challenge) : Assessment :=
  match c.task with
  | .unspecified => .unsolved "Unknown challenge type"
  | t => .unsolved ("Invalid input for " ++ t.name ++ " challenge")

/-- Runs the scripts of an answer on the engine and assesses it.  An answer to another kind of
task is not run. -/
def validate (c : Challenge) (a : Answer) (e : Engine) : Except Fault Assessment × Engine :=
  match c.task.scripts? a with
  | none => (.ok c.mismatch, e)
  | some (unlocking, locking) =>
    let r := e.executePair unlocking locking
    (r.1.bind (c.task.assess a), r.2)

/-- The lines that the journal gets: those of the run, or that the answer was rejected. -/
def journal (c : Challenge) (a : Answer) (e : Engine) : List Journal.Line :=
  match c.task.scripts? a with
  | some (unlocking, locking) => Engine.journal (e.executePair unlocking locking)
  | none =>
    match c.task with
    | .unspecified => []
    | _ => [⟨.challenges, "Rejected input for challenge " ++ c.id⟩]

end Challenge

end ScriptTutor
