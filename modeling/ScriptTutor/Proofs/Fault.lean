/-
**Programs without a report.**

A failure of the script is part of the report, so that only a misuse by the caller is left to keep
a report from being made: a value that cannot be an item, or a program that is none.  No opcode
raises anything of its own, on whatever items it runs, since every operation that is tried finds the
items it asks for; and every label and every line of the journal can be written.  What carries the
proofs is that a run which comes to such a value is the run of the program before it, with another
ending.

Main definition:

* `ScriptTutor.Engine.StopsAt` — the run of a program comes to a value that is no item.

Main results:

* `ScriptTutor.Machine.exists_of_faulted`, `ScriptTutor.Machine.run_of_fault` — **a run has a fault
  exactly if it comes to a value that is no instruction**, and then it has done what the program
  before that value does;
* `ScriptTutor.Engine.execute_error_iff` — **a program has no report exactly if its run comes to a
  value that is no item**.
-/

import ScriptTutor.Proofs.Machine.Passes

set_option relaxedAutoImplicit false
set_option autoImplicit false

namespace ScriptTutor

namespace Machine

variable {p : List Value} {m : Machine} {e : Fault}

/-- A run with a fault came to a value that is no instruction, after instructions that all
succeeded. -/
theorem exists_of_faulted (h : (run p m).ending = .faulted e) :
    ∃ k v, p[k]? = some v ∧ Instruction.ofValue v = .error e ∧
      (run (p.take k) m).ending = .finished := by
  induction p, m using run_induction with
  | nil m => cases h
  | fault v p m e' hi hrun =>
      rw [hrun] at h
      cases h
      exact ⟨0, v, rfl, hi, rfl⟩
  | failure v p m i f m' hi ho hrun =>
      rw [hrun] at h
      cases h
  | success v p m i m' hi ho hrun ih =>
      rw [hrun] at h
      obtain ⟨k, w, hw, hfault, hfin⟩ := ih h
      refine ⟨k + 1, w, hw, hfault, ?_⟩
      rw [List.take_succ_cons, run_cons_of_ok hi ho]
      exact hfin

/-- A run that comes to a value that is no instruction has done what the program before that value
does, and ends there. -/
theorem run_of_fault {k : Nat} {v : Value} (hv : p[k]? = some v)
    (hi : Instruction.ofValue v = .error e) (hfin : (run (p.take k) m).ending = .finished) :
    run p m = { run (p.take k) m with ending := .faulted e } := by
  obtain ⟨hk, rfl⟩ := List.getElem?_eq_some_iff.1 hv
  have hsplit : p = p.take k ++ p[k] :: p.drop (k + 1) := by
    rw [← List.drop_eq_getElem_cons hk, List.take_append_drop]
  calc run p m = run (p.take k ++ p[k] :: p.drop (k + 1)) m := by rw [← hsplit]
    _ = { run (p.take k) m with ending := .faulted e } := by
      rw [run_append_of_finished hfin, run_cons_of_fault (step_of_error hi _), List.append_nil]

end Machine

namespace Engine

/-- The run of a program comes to a value that is no item: all instructions before it succeed.  What
the engine has done then is what it does on those instructions alone. -/
structure StopsAt (p : List Value) (e : Engine) (k : Nat) (v : Value) (e' : Engine) : Prop where
  getElem? : p[k]? = some v
  not_isItem : ¬ v.IsItem
  execute_take : ∃ r, e.execute (.list (p.take k)) = (.ok r, e')
  length_steps : e'.steps.length = k
  success_of_mem : ∀ s ∈ e'.steps, s.success = true

/-- A program stops at a value exactly if its run has a fault there. -/
theorem stopsAt_iff {p : List Value} {e e' : Engine} {k : Nat} {v : Value} :
    StopsAt p e k v e' ↔ p[k]? = some v ∧ ¬ v.IsItem ∧
      Machine.Passes (p.take k) Machine.start e'.toMachine ∧
      e'.steps = (Machine.run (p.take k) Machine.start).steps := by
  constructor
  · rintro ⟨hv, hitem, ⟨r, hr⟩, -, hall⟩
    rw [execute_list] at hr
    have hpasses := passes_of_steps hr (steps_of_executeList hr ▸ hall)
    rw [executeList_of_passes hpasses] at hr
    exact ⟨hv, hitem, hpasses, (congrArg (·.2.steps) hr).symm⟩
  · rintro ⟨hv, hitem, hpasses, hsteps⟩
    obtain ⟨m, steps⟩ := e'
    obtain rfl : steps = _ := hsteps
    obtain ⟨hk, -⟩ := List.getElem?_eq_some_iff.1 hv
    refine ⟨hv, hitem, ⟨_, executeList_of_passes hpasses⟩, ?_, hpasses.success_of_mem⟩
    exact hpasses.length_steps.trans (List.length_take_of_le (Nat.le_of_lt hk))

/-- **A program has no report exactly if its run comes to a value that is no item**, executed or
skipped, and that value decides on the fault.  It is the first of its sort.  A text or a byte string
is no program, and does not even reset the engine; whatever else cannot be walked through does. -/
theorem execute_error_iff (e : Engine) :
    (∀ p f e', e.execute (.list p) = (.error f, e') ↔
      ∃ k v, StopsAt p e k v e' ∧ (∀ w ∈ p.take k, w.IsItem) ∧ f = v.refusal) ∧
    (∀ t, e.execute (.item (.text t)) = (.error .notAProgram, e)) ∧
    (∀ bs, e.execute (.item (.bytes bs)) = (.error .notAProgram, e)) ∧
    ∀ v f, v.elements = .error f → e.execute v = (.error f, fresh) := by
  refine ⟨?_, fun _ => rfl, fun _ => rfl, ?_⟩
  · intro p f e'
    rw [execute_list]
    constructor
    · intro h
      rw [executeList, conclude_eq] at h
      split at h
      · cases h
      · cases h
      · next fault hfault =>
        obtain ⟨k, v, hv, hi, hfin⟩ := Machine.exists_of_faulted hfault
        obtain ⟨hitem, rfl⟩ := Instruction.ofValue_eq_error_iff.1 hi
        rw [Machine.run_of_fault hv hi hfin] at h
        cases h
        have hpasses : Machine.Passes (p.take k) Machine.start _ := ⟨hfin, rfl⟩
        exact ⟨k, v, stopsAt_iff.2 ⟨hv, hitem, hpasses, rfl⟩, hpasses.isItem_of_mem, rfl⟩
    · rintro ⟨k, v, hstops, -, rfl⟩
      obtain ⟨hv, hitem, ⟨hfin, hm⟩, hsteps⟩ := stopsAt_iff.1 hstops
      have hi := Instruction.ofValue_eq_error_iff.2 ⟨hitem, rfl⟩
      obtain ⟨m, steps⟩ := e'
      obtain rfl : _ = m := hm
      obtain rfl : steps = _ := hsteps
      rw [executeList, Machine.run_of_fault hv hi hfin]
      rfl
  · intro v f h
    rw [execute, h]
    · rintro t rfl
      cases h
    · rintro bs rfl
      cases h

/-- A value that is no item stops a program where it is skipped as well. -/
example :
    (fresh.execute (.list [.item (.number 0), .item (.text "OP_IF"), .absent])).1 =
      .error (.notAnItem .absent) := rfl

/-- Two faults that are not about the kind of a value: that of a view that was given back, and that
of a program that cannot be walked through. -/
theorem execute_error_others :
    (∃ f, (fresh.execute (.list [.released])).1 = .error f ∧ f ≠ .notAProgram ∧
      ∀ kind, f ≠ .notAnItem kind) ∧
    ∃ f, (fresh.execute (.item (.number 5))).1 = .error f ∧ f ≠ .notAProgram ∧
      ∀ kind, f ≠ .notAnItem kind :=
  ⟨⟨.released, rfl, nofun, nofun⟩, .wrongKind, rfl, nofun, nofun⟩

end Engine

end ScriptTutor
