/-
**Engines without memory.**

One engine may serve many callers.  They execute programs, take single steps, reset it, and have
answers assessed on it; some of this fails, or goes wrong halfway, and leaves items, open branches
and steps behind.  None of it shows in the next execution, since an execution clears the engine
before it takes its first value.  The only exception is a text or a byte string that is handed over
as a program: it is refused before the engine is cleared.

Main definitions:

* `ScriptTutor.Value.isRefused` — a value is refused as a program;
* `ScriptTutor.Engine.Call` — what a caller can do with an engine;
* `ScriptTutor.Engine.after` — an engine after a history of calls.

Main results:

* `ScriptTutor.Engine.execute_of_not_isRefused` — an execution is the loop on the engine, cleared;
* `ScriptTutor.Engine.execute_after` — **an execution does not depend on what happened before**.
-/

import ScriptTutor.Challenge.Assessment
import ScriptTutor.Proofs.Course

set_option relaxedAutoImplicit false
set_option autoImplicit false

namespace ScriptTutor

/-- Whether a value is refused as a program: a text or a byte string is, although one can walk
through it. -/
def Value.isRefused : Value → Bool
  | .item (.text _) => true
  | .item (.bytes _) => true
  | _ => false

namespace Engine

/-! ### Executions of any value -/

theorem execute_of_isRefused {program : Value} (h : program.isRefused = true) (e : Engine) :
    e.execute program = (.error .notAProgram, e) := by
  cases program with
  | item x =>
      cases x with
      | text t => rfl
      | bytes bs => rfl
      | number n => cases h
      | flag b => cases h
  | _ => cases h

/-- An execution of any other value is the loop on the engine, cleared.  Where one cannot walk
through the value, the engine is cleared all the same. -/
theorem execute_of_not_isRefused {program : Value} (h : program.isRefused = false) (e : Engine) :
    e.execute program =
      match program.elements with
      | .ok vs => complete (e.reset.proceed vs)
      | .error fault => (.error fault, e.reset) := by
  have hloop : e.execute program =
      match program.elements with
      | .ok vs => executeList vs
      | .error fault => (.error fault, fresh) := by
    cases program with
    | item x =>
        cases x with
        | text t => cases h
        | bytes bs => cases h
        | number n => rfl
        | flag b => rfl
    | _ => rfl
  rw [hloop]
  cases program.elements with
  | ok vs => exact executeList_eq_proceed vs e
  | error fault => rfl

/-! ### Histories -/

inductive Call where
  | execute (program : Value)
  | executePair (unlocking locking : Value)
  | validates (program : Value)
  | reset
  | step (v : Value)
  | assess (c : Challenge) (a : Answer)

/-- The engine that a call leaves behind, whatever its outcome. -/
def Call.leaves : Call → Engine → Engine
  | execute program, e => (e.execute program).2
  | executePair unlocking locking, e => (e.executePair unlocking locking).2
  | validates program, e => (e.validates program).2
  | reset, e => e.reset
  | step v, e => (e.step v).2
  | assess c a, e => (c.validate a e).2

def after (calls : List Call) (e : Engine) : Engine := calls.foldl (fun e c => c.leaves e) e

/-- **An execution does not depend on what happened before.**  Whatever was done with an engine, it
clears itself and takes the values of the program one by one, with the outcome that they have on a
new engine, and in the end it is in the same state.  A program that is refused is refused in the
same way, but it leaves the engine as it was. -/
theorem execute_after (calls : List Call) (program : Value) :
    (program.isRefused = false →
      (fresh.after calls).execute program = fresh.execute program ∧
        ∀ vs, program.elements = .ok vs →
          (fresh.after calls).execute program =
            complete ((fresh.after calls).reset.proceed vs)) ∧
      (program.isRefused = true →
        ((fresh.after calls).execute program).1 = (fresh.execute program).1 ∧
          ((fresh.after calls).execute program).2 = fresh.after calls) := by
  constructor
  · intro h
    constructor
    · rw [execute_of_not_isRefused h, execute_of_not_isRefused h, reset_eq_fresh, reset_eq_fresh]
    · intro vs hvs
      rw [execute_of_not_isRefused h, hvs]
  · intro h
    rw [execute_of_isRefused h, execute_of_isRefused h]
    exact ⟨rfl, rfl⟩

/-- A text that is refused leaves the item that an earlier program has pushed. -/
theorem execute_after_text :
    ¬ ∀ (calls : List Call) (program : Value),
      (fresh.after calls).execute program = fresh.execute program := by
  intro h
  have hsame := h [.execute (.list [.item (.number 1)])] (.item (.text "OP_1"))
  have hmain := congrArg (fun r => r.2.main) hsame
  exact absurd hmain (by decide +kernel)

/-- A run that stops at an absent value leaves items on both stacks and an open branch behind, and a
step takes one of the items; the next execution sees nothing of it. -/
theorem execute_after_fault :
    (fresh.after [.execute (.list [.item (.number 5), .item (.number 1), .item (.text "OP_DUP"),
        .item (.text "OP_TOALTSTACK"), .item (.text "OP_IF"), .absent]),
        .step (.item (.text "OP_DROP"))]).execute (.list [.item (.text "OP_DEPTH")]) =
      fresh.execute (.list [.item (.text "OP_DEPTH")]) :=
  ((execute_after _ (.list [.item (.text "OP_DEPTH")])).1 rfl).1

end Engine

end ScriptTutor
