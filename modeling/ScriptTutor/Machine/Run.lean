/-
**Runs of programs.**

A run takes the values of a program one by one.  It ends at the first step that fails, and at the
first value that is no instruction.

Main definitions:

* `ScriptTutor.Machine.Ending` — how a run ended;
* `ScriptTutor.Machine.Run` — what a run did;
* `ScriptTutor.Machine.run` — a program, run on a machine.

Main results:

* `ScriptTutor.Machine.run_append_of_finished` — a run that finishes **goes on** with what is put
  after the program;
* `ScriptTutor.Machine.run_append_of_not_finished` — a run that does not finish is **not changed**
  by what is put after the program.
-/

import ScriptTutor.Machine.Basic

set_option relaxedAutoImplicit false
set_option autoImplicit false

namespace ScriptTutor.Machine

/-- How a run ended. -/
inductive Ending where
  /-- Every instruction succeeded. -/
  | finished
  /-- The last step failed. -/
  | failed (error : Option Text)
  /-- There is no step for the next value. -/
  | faulted (e : Fault)
  deriving DecidableEq

/-- What a run did: its steps, the machine at the end, and how it ended. -/
structure Run where
  steps : List Step
  machine : Machine
  ending : Ending
  deriving DecidableEq

/-- What a run did, with a step put before it. -/
def Run.after (s : Step) (r : Run) : Run := { r with steps := s :: r.steps }

/-- Runs the values of a program one after the other, up to the first that fails. -/
def run : List Value → Machine → Run
  | [], m => ⟨[], m, .finished⟩
  | v :: vs, m =>
    match step v m with
    | (.error e, m') => ⟨[], m', .faulted e⟩
    | (.ok s, m') => if s.success then (run vs m').after s else ⟨[s], m', .failed s.error⟩

@[simp] theorem run_nil (m : Machine) : run [] m = ⟨[], m, .finished⟩ := rfl

theorem run_cons_of_success {v : Value} {m m' : Machine} {s : Step}
    (h : step v m = (.ok s, m')) (hs : s.success = true) (vs : List Value) :
    run (v :: vs) m = (run vs m').after s := by
  simp [run, h, hs]

theorem run_cons_of_failure {v : Value} {m m' : Machine} {s : Step}
    (h : step v m = (.ok s, m')) (hs : s.success = false) (vs : List Value) :
    run (v :: vs) m = ⟨[s], m', .failed s.error⟩ := by
  simp [run, h, hs]

theorem run_cons_of_fault {v : Value} {m m' : Machine} {e : Fault}
    (h : step v m = (.error e, m')) (vs : List Value) :
    run (v :: vs) m = ⟨[], m', .faulted e⟩ := by
  simp [run, h]

/-! ### Programs put one after the other -/

/-- A run that finishes goes on with what is put after the program. -/
theorem run_append_of_finished {p : List Value} {m : Machine}
    (h : (run p m).ending = .finished) (q : List Value) :
    run (p ++ q) m =
      { run q (run p m).machine with
        steps := (run p m).steps ++ (run q (run p m).machine).steps } := by
  induction p generalizing m with
  | nil => simp
  | cons v p ih =>
      rw [List.cons_append]
      cases hv : step v m with
      | mk r m' =>
          cases r with
          | error e => simp [run_cons_of_fault hv] at h
          | ok s =>
              cases hs : s.success with
              | true =>
                  rw [run_cons_of_success hv hs] at h ⊢
                  rw [run_cons_of_success hv hs, ih h]
                  rfl
              | false => simp [run_cons_of_failure hv hs] at h

/-- A run that does not finish is not changed by what is put after the program. -/
theorem run_append_of_not_finished {p : List Value} {m : Machine}
    (h : (run p m).ending ≠ .finished) (q : List Value) : run (p ++ q) m = run p m := by
  induction p generalizing m with
  | nil => simp at h
  | cons v p ih =>
      rw [List.cons_append]
      cases hv : step v m with
      | mk r m' =>
          cases r with
          | error e => rw [run_cons_of_fault hv, run_cons_of_fault hv]
          | ok s =>
              cases hs : s.success with
              | true =>
                  rw [run_cons_of_success hv hs] at h
                  rw [run_cons_of_success hv hs, run_cons_of_success hv hs, ih h]
              | false => rw [run_cons_of_failure hv hs, run_cons_of_failure hv hs]

end ScriptTutor.Machine
