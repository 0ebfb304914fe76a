/-
**Challenges.**

A challenge sets a task about scripts, and a learner gives an answer.  Four kinds of tasks exist:
to unlock a script, to reach an outcome, to trace a run, and to predict one.

Main definitions:

* `ScriptTutor.Question` — what is asked about a run;
* `ScriptTutor.Task`, `ScriptTutor.Challenge` — a task, and a challenge that sets it;
* `ScriptTutor.Answer` — what a learner hands in;
* `ScriptTutor.Task.scripts?` — the two scripts that an answer to a task has run.
-/

import ScriptTutor.Value.Basic

set_option relaxedAutoImplicit false
set_option autoImplicit false

namespace ScriptTutor

inductive Difficulty where
  | easy
  | medium
  | hard
  deriving DecidableEq

def Difficulty.name : Difficulty → Text
  | easy => "easy"
  | medium => "medium"
  | hard => "hard"

inductive Question where
  /-- Whether the script is valid. -/
  | validity
  /-- The stack after the step at this position, which may be any value, or absent. -/
  | stackAfter (position : Value)

namespace Question

def name : Question → Text
  | validity => "valid"
  | stackAfter _ => "stack_after_step"

/-- The question of a kind; every kind but one asks for a stack. -/
def ofKind (kind position : Value) : Question :=
  match kind with
  | .item (.text t) => if t = "valid" then validity else stackAfter position
  | _ => stackAfter position

def position : Question → Value
  | validity => .absent
  | stackAfter position => position

end Question

/-- What a challenge asks for.  Scripts and stacks are values, since a challenge may come from
outside. -/
inductive Task where
  /-- To find an unlocking script. -/
  | unlock (locking : Value)
  /-- To find both scripts, so that they end with the given stack, or just succeed. -/
  | outcome (goal : Option Value) (allowed : List Text)
  /-- To answer a question about a run. -/
  | trace (unlocking locking : Value) (question : Question) (expected : Value)
  /-- To predict whether a script is valid. -/
  | predict (unlocking locking : Value) (expected : Value)
  /-- A challenge without a task. -/
  | unspecified

/-- A task with its presentation. -/
structure Challenge where
  id : Text
  title : Text
  description : Text
  difficulty : Difficulty
  task : Task

def Task.name : Task → Text
  | unlock _ => "unlock"
  | outcome .. => "match_outcome"
  | trace .. => "trace"
  | predict .. => "predict_valid"
  | unspecified => ""

inductive Answer where
  | unlocking (script : Value)
  | scripts (unlocking locking : Value)
  | traced (answer : Value)
  | predicted (valid : Value)
  /-- Something that answers no task. -/
  | foreign

/-- The scripts that have to be run for an answer, unlocking script first; there are none if the
answer is to another kind of task. -/
def Task.scripts? : Task → Answer → Option (Value × Value)
  | unlock locking, .unlocking script => some (script, locking)
  | outcome .., .scripts unlocking locking => some (unlocking, locking)
  | trace unlocking locking .., .traced _ => some (unlocking, locking)
  | predict unlocking locking _, .predicted _ => some (unlocking, locking)
  | _, _ => none

end ScriptTutor
