/-
**The course of an execution.**

An engine that executes a program clears what it did before, and then takes the values of the
program one by one: it makes a step on its own stacks and branches, notes the step, and stops at the
first one that failed.  A run knows nothing of the engine and of what it did before.  Here the two
are shown to be the same, and the states are named that the engine comes through on its way.

Main definitions:

* `ScriptTutor.Engine.reset`, `ScriptTutor.Engine.proceed` — an engine cleared, and the loop over
  the values of a program on an engine in any state;
* `ScriptTutor.Engine.Reached` — the states through which an engine comes that executes a program.

Main results:

* `ScriptTutor.Engine.step_of_ok`, `ScriptTutor.Engine.step_of_error` — a single step in terms of
  instructions;
* `ScriptTutor.Engine.proceed_eq_run` — the loop adds the steps of the run to those that were noted;
* `ScriptTutor.Engine.executeList_eq_proceed` — **an execution is the loop on the engine, cleared**;
* `ScriptTutor.Engine.reached_executeList` — an execution leaves a state behind that it reached.
-/

import ScriptTutor.Proofs.Trace

set_option relaxedAutoImplicit false
set_option autoImplicit false

namespace ScriptTutor

/-- What a run that ended so has to say: the error of the step that failed, if one did, or the fault
of the value that was no instruction. -/
def Machine.Ending.result : Machine.Ending → Except Fault (Option Text)
  | finished => .ok none
  | failed error => .ok error
  | faulted e => .error e

namespace Engine

/-! ### Single steps -/

section

variable {v : Value} (e : Engine)

/-- A step on an engine shows what the instruction does to its machine, and notes nothing. -/
theorem step_of_ok {i : Instruction} (hv : Instruction.ofValue v = .ok i) :
    e.step v =
      (.ok (Machine.record i e.toMachine (Machine.obey i e.toMachine).2
        (Machine.failure? (Machine.obey i e.toMachine).1)),
        { e with toMachine := (Machine.obey i e.toMachine).2 }) := by
  rw [step, Machine.step_eq hv]

/-- A value that is no instruction leaves the engine alone. -/
theorem step_of_error {fault : Fault} (hv : Instruction.ofValue v = .error fault) :
    e.step v = (.error fault, e) := by
  rw [step, Machine.step_of_error hv]

end

/-! ### The loop -/

/-- The engine with both stacks, the open branches and the steps cleared. -/
def reset (e : Engine) : Engine := { e with main := [], alt := [], branches := [], steps := [] }

theorem reset_eq_fresh (e : Engine) : e.reset = fresh := rfl

def note (s : Step) (e : Engine) : Engine := { e with steps := e.steps ++ [s] }

/-- Takes the values of a program one by one on an engine in any state and notes the steps, up to
the first that fails: the error of that step, if there is one, and the engine. -/
def proceed : List Value → Engine → Except Fault (Option Text) × Engine
  | [], e => (.ok none, e)
  | v :: vs, e =>
    match e.step v with
    | (.error fault, e') => (.error fault, e')
    | (.ok s, e') => if s.success then proceed vs (e'.note s) else (.ok s.error, e'.note s)

def complete (r : Except Fault (Option Text) × Engine) : Except Fault Report × Engine :=
  (r.1.map r.2.verdict, r.2)

/-- The loop adds the steps of the run to those that were noted. -/
theorem proceed_eq_run (p : List Value) (e : Engine) :
    e.proceed p = ((Machine.run p e.toMachine).ending.result,
      ⟨(Machine.run p e.toMachine).machine, e.steps ++ (Machine.run p e.toMachine).steps⟩) := by
  induction p generalizing e with
  | nil => simp [proceed, Machine.Ending.result]
  | cons v p ih =>
      cases hv : e.toMachine.step v with
      | mk r m =>
          cases r with
          | error fault =>
              rw [Machine.run_cons_of_fault hv]
              simp [proceed, step, hv, Machine.Ending.result]
          | ok s =>
              cases hs : s.success with
              | true =>
                  rw [Machine.run_cons_of_success hv hs]
                  simp [proceed, step, hv, hs, ih, note, Machine.Run.after]
              | false =>
                  rw [Machine.run_cons_of_failure hv hs]
                  simp [proceed, step, hv, hs, note, Machine.Ending.result]

/-- **An execution is the loop on the engine, cleared.** -/
theorem executeList_eq_proceed (p : List Value) (e : Engine) :
    executeList p = complete (e.reset.proceed p) := by
  rw [proceed_eq_run, reset_eq_fresh, fresh, executeList, conclude_eq]
  cases (Machine.run p Machine.start).ending <;> rfl

/-! ### States on the way -/

/-- The states through which an engine comes that executes a program: it begins with nothing, and
goes on with the next value of the program as long as no step has failed. -/
inductive Reached (p : List Value) : Engine → Prop
  | start : Reached p fresh
  | next {e e' : Engine} {v : Value} {s : Step} (h : Reached p e)
      (hall : ∀ s ∈ e.steps, s.success = true) (hv : p[e.steps.length]? = some v)
      (hs : e.step v = (.ok s, e')) : Reached p (e'.note s)

/-- The loop comes through states that are reached, when it takes the values that are left. -/
theorem Reached.proceed {p : List Value} {e : Engine} (h : Reached p e)
    (hall : ∀ s ∈ e.steps, s.success = true) {q : List Value} (hq : p.drop e.steps.length = q) :
    Reached p (e.proceed q).2 := by
  induction q generalizing e with
  | nil => exact h
  | cons v q ih =>
      have hv : p[e.steps.length]? = some v := by
        rw [← List.head?_drop, hq]
        rfl
      cases hi : Instruction.ofValue v with
      | error fault =>
          rw [Engine.proceed, e.step_of_error hi]
          exact h
      | ok i =>
          obtain ⟨s, e', hs, hsteps⟩ : ∃ s e', e.step v = (.ok s, e') ∧ e'.steps = e.steps :=
            ⟨_, _, e.step_of_ok hi, rfl⟩
          have hnext := h.next hall hv hs
          rw [Engine.proceed, hs]
          dsimp only
          split
          · next hsuccess =>
            refine ih hnext ?_ ?_
            · simp only [note, hsteps, List.mem_append, List.mem_singleton]
              rintro t (ht | rfl)
              · exact hall t ht
              · exact hsuccess
            · rw [note, hsteps, List.length_append, ← List.drop_drop, hq]
              rfl
          · exact hnext

/-- An execution leaves a state behind that it reached. -/
theorem reached_executeList (p : List Value) : Reached p (executeList p).2 := by
  rw [executeList_eq_proceed p fresh]
  exact Reached.start.proceed (p := p) (by simp [fresh]) rfl

end Engine

end ScriptTutor
