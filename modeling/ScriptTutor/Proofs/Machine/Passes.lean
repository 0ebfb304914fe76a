/-
**Programs that run through, and programs with the same outcome.**

A program passes from one machine to another if all its instructions succeed.  Passing is
compositional: a program put after another passes from where the first one ends.  Two programs are
equivalent if, on every machine, their runs end in the same way on the same stacks, and with the
same branches if they finish.  Equivalent programs may be exchanged inside any other program.

Main definitions:

* `ScriptTutor.Machine.Passes` — a program runs through;
* `ScriptTutor.Machine.Equivalent` — two programs have the same outcome on every machine;
* `ScriptTutor.Engine.SameVerdict` — two executions have the same verdict on the same stacks.

Main results:

* `ScriptTutor.Machine.passes_cons_iff`, `ScriptTutor.Machine.passes_append_iff` — passing goes
  instruction by instruction and program by program;
* `ScriptTutor.Machine.Passes.induction` — **induction over a program that passes**;
* `ScriptTutor.Machine.ending_of_isItem` — **a program of items** finishes or fails, but has no
  fault;
* `ScriptTutor.Engine.executeList_success_iff` — **a program is a success** exactly if it passes to
  a machine without open branches and with a true item on top;
* `ScriptTutor.Machine.Equivalent.append_left`, `ScriptTutor.Machine.Equivalent.append_right` —
  **equivalent programs may be exchanged** inside any program;
* `ScriptTutor.Engine.sameVerdict_of_equivalent` — and executed instead of each other.
-/

import ScriptTutor.Engine
import ScriptTutor.Proofs.Machine.Step

set_option relaxedAutoImplicit false
set_option autoImplicit false

namespace ScriptTutor

namespace Machine

/-! ### Passing -/

/-- All instructions of the program succeed, and lead from one machine to the other. -/
def Passes (p : List Value) (m m' : Machine) : Prop :=
  (run p m).ending = .finished ∧ (run p m).machine = m'

section

variable {p q : List Value} {m m' : Machine}

theorem passes_nil_iff : Passes [] m m' ↔ m = m' := by
  simp [Passes]

theorem passes_cons_iff {v : Value} :
    Passes (v :: p) m m' ↔
      ∃ i mid, Instruction.ofValue v = .ok i ∧ obey i m = (.ok (), mid) ∧ Passes p mid m' := by
  cases hv : Instruction.ofValue v with
  | error e => simp [Passes, run_cons_of_fault (step_of_error hv m)]
  | ok i =>
      obtain ⟨mid, ho⟩ | ⟨f, mid, ho⟩ := obey_cases i m
      · have hrun := run_cons_of_ok hv ho p
        constructor
        · rintro ⟨hend, hm⟩
          rw [hrun] at hend hm
          exact ⟨i, mid, rfl, ho, hend, hm⟩
        · rintro ⟨j, mid', hj, ho', hpass⟩
          cases hj
          obtain rfl : mid = mid' := (Prod.mk.inj (ho.symm.trans ho')).2
          rw [Passes, hrun]
          exact hpass
      · constructor
        · rintro ⟨hend, -⟩
          rw [run_cons_of_error hv ho] at hend
          cases hend
        · rintro ⟨j, mid', hj, ho', -⟩
          cases hj
          rw [ho] at ho'
          cases ho'

theorem passes_append_iff :
    Passes (p ++ q) m m' ↔ ∃ mid, Passes p m mid ∧ Passes q mid m' := by
  induction p generalizing m with
  | nil => simp [passes_nil_iff]
  | cons v p ih =>
      simp only [List.cons_append, passes_cons_iff, ih]
      constructor
      · rintro ⟨i, a, hi, ha, b, hb, hq⟩
        exact ⟨b, ⟨i, a, hi, ha, hb⟩, hq⟩
      · rintro ⟨b, ⟨i, a, hi, ha, hb⟩, hq⟩
        exact ⟨i, a, hi, ha, b, hb, hq⟩

/-- **Induction over a program that passes**: each of its instructions succeeds. -/
@[elab_as_elim]
theorem Passes.induction {motive : (p : List Value) → (m : Machine) → Passes p m m' → Prop}
    (nil : motive [] m' ⟨rfl, rfl⟩)
    (cons : ∀ v p m i mid (h : Passes (v :: p) m m'), Instruction.ofValue v = .ok i →
      obey i m = (.ok (), mid) → ∀ hp : Passes p mid m', motive p mid hp → motive (v :: p) m h)
    (p : List Value) (m : Machine) (h : Passes p m m') : motive p m h := by
  induction p generalizing m with
  | nil =>
      obtain rfl := passes_nil_iff.1 h
      exact nil
  | cons v p ih =>
      obtain ⟨i, mid, hi, ho, hp⟩ := passes_cons_iff.1 h
      exact cons v p m i mid h hi ho hp (ih mid hp)

theorem Passes.length_steps (h : Passes p m m') : (run p m).steps.length = p.length := by
  induction p, m, h using Passes.induction with
  | nil => rfl
  | cons v p m i mid h hi ho hp ih =>
      rw [run_cons_of_ok hi ho, List.length_cons, ← ih]
      rfl

theorem Passes.getElem?_steps (h : Passes p m m') {v : Value} {i : Instruction}
    (hv : Instruction.ofValue v = .ok i) (q : List Value) :
    (run (p ++ v :: q) m).steps[p.length]? =
      some (record i m' (obey i m').2 (failure? (obey i m').1)) := by
  have hsteps : (run (v :: q) m').steps[0]? =
      some (record i m' (obey i m').2 (failure? (obey i m').1)) := by
    obtain ⟨mid, ho⟩ | ⟨f, mid, ho⟩ := obey_cases i m'
    · rw [run_cons_of_ok hv ho, ho]
      rfl
    · rw [run_cons_of_error hv ho, ho]
      rfl
  rw [run_append_of_finished h.1, h.2, List.getElem?_append_right (Nat.le_of_eq h.length_steps),
    h.length_steps, Nat.sub_self]
  exact hsteps

theorem Passes.success_of_mem (h : Passes p m m') : ∀ s ∈ (run p m).steps, s.success = true := by
  induction p, m, h using Passes.induction with
  | nil => simp
  | cons v p m i mid h hi ho hp ih =>
      rw [run_cons_of_ok hi ho]
      exact List.forall_mem_cons.2 ⟨rfl, ih⟩

theorem Passes.isItem_of_mem (h : Passes p m m') : ∀ v ∈ p, v.IsItem := by
  induction p, m, h using Passes.induction with
  | nil => simp
  | cons v p m i mid h hi ho hp ih =>
      exact List.forall_mem_cons.2 ⟨Instruction.isItem_of_ofValue hi, ih⟩

/-! ### How runs end -/

/-- A run finishes, or fails with the message of a failure, or comes to a value that is no item. -/
theorem ending_cases (p : List Value) (m : Machine) :
    (run p m).ending = .finished ∨
    (∃ f : Failure, (run p m).ending = .failed (some f.message)) ∨
    ∃ e, (run p m).ending = .faulted e ∧ ∃ v ∈ p, ¬ v.IsItem := by
  induction p, m using run_induction with
  | nil m => exact .inl rfl
  | fault v p m e hi hrun =>
      have hv := (Instruction.ofValue_eq_error_iff.1 hi).1
      rw [hrun]
      exact .inr (.inr ⟨e, rfl, v, List.mem_cons_self .., hv⟩)
  | failure v p m i f m' hi ho hrun =>
      rw [hrun]
      exact .inr (.inl ⟨f, rfl⟩)
  | success v p m i m' hi ho hrun ih =>
      rw [hrun]
      obtain hfin | hfail | ⟨e, he, w, hw, hitem⟩ := ih
      · exact .inl hfin
      · exact .inr (.inl hfail)
      · exact .inr (.inr ⟨e, he, w, List.mem_cons_of_mem v hw, hitem⟩)

theorem getLast?_steps_of_failed {error : Option Text} (h : (run p m).ending = .failed error) :
    ∃ s, (run p m).steps.getLast? = some s ∧ s.success = false ∧ s.error = error := by
  induction p, m using run_induction with
  | nil m => cases h
  | fault v p m e hi hrun =>
      rw [hrun] at h
      cases h
  | failure v p m i f m' hi ho hrun =>
      rw [hrun] at h ⊢
      cases h
      exact ⟨_, rfl, rfl, rfl⟩
  | success v p m i m' hi ho hrun ih =>
      rw [hrun] at h ⊢
      obtain ⟨s, hlast, hs⟩ := ih h
      refine ⟨s, ?_, hs⟩
      rw [Run.after, List.getLast?_cons, hlast]
      rfl

/-- **A program of items** finishes or fails, but has no fault. -/
theorem ending_of_isItem (hp : ∀ v ∈ p, v.IsItem) (m : Machine) :
    (run p m).ending = .finished ∨ ∃ f : Failure, (run p m).ending = .failed (some f.message) := by
  obtain hfin | hfail | ⟨-, -, v, hv, hitem⟩ := ending_cases p m
  · exact .inl hfin
  · exact .inr hfail
  · exact absurd (hp v hv) hitem

end

/-! ### Programs with the same outcome -/

/-- Two runs end in the same way on the same stacks; if they finish, the same branches are open. -/
structure Run.SameOutcome (r s : Run) : Prop where
  ending : r.ending = s.ending
  toStacks_eq : r.machine.toStacks = s.machine.toStacks
  branches : r.ending = .finished → r.machine.branches = s.machine.branches

theorem Run.SameOutcome.machine {r s : Run} (h : r.SameOutcome s) (hr : r.ending = .finished) :
    r.machine = s.machine := by
  have hs := h.toStacks_eq
  have hb := h.branches hr
  rcases hm : r.machine with ⟨s₁, b₁⟩
  rcases hn : s.machine with ⟨s₂, b₂⟩
  simp_all

/-- Two programs have the same outcome on every machine. -/
def Equivalent (p q : List Value) : Prop := ∀ m, (run p m).SameOutcome (run q m)

namespace Equivalent

variable {p q : List Value}

/-- Equivalent programs may be exchanged at the end of a program. -/
theorem append_left (h : Equivalent p q) (x : List Value) : Equivalent (x ++ p) (x ++ q) := by
  intro m
  by_cases hx : (run x m).ending = .finished
  · obtain ⟨he, hs, hb⟩ := h (run x m).machine
    rw [run_append_of_finished hx, run_append_of_finished hx]
    exact ⟨he, hs, hb⟩
  · rw [run_append_of_not_finished hx, run_append_of_not_finished hx]
    exact ⟨rfl, rfl, fun _ => rfl⟩

/-- Equivalent programs may be exchanged at the beginning of a program. -/
theorem append_right (h : Equivalent p q) (x : List Value) : Equivalent (p ++ x) (q ++ x) := by
  intro m
  have hpq := h m
  by_cases hp : (run p m).ending = .finished
  · rw [run_append_of_finished hp, run_append_of_finished (hpq.ending ▸ hp), ← hpq.machine hp]
    exact ⟨rfl, rfl, fun _ => rfl⟩
  · rw [run_append_of_not_finished hp, run_append_of_not_finished (hpq.ending ▸ hp)]
    exact hpq

end Equivalent

end Machine

namespace Engine

/-! ### Executions in terms of runs -/

theorem objection?_eq_none_iff {m : Machine} :
    objection? m = none ↔ m.branches = [] ∧ ∃ x rest, m.main = x :: rest ∧ x.isTrue = true := by
  cases hb : m.branches with
  | cons f bs => simp [objection?, hb]
  | nil =>
      cases hm : m.main with
      | nil => simp [objection?, hb, hm]
      | cons x rest => simp [objection?, hb, hm]

theorem executeList_of_passes {p : List Value} {m : Machine}
    (h : Machine.Passes p Machine.start m) :
    executeList p = (.ok (verdict none ⟨m, (Machine.run p Machine.start).steps⟩),
      ⟨m, (Machine.run p Machine.start).steps⟩) := by
  rw [executeList, conclude_eq, h.1, h.2]

/-- **A program is a success** exactly if it passes to a machine without open branches and with a
true item on top. -/
theorem executeList_success_iff {p : List Value} {r : Report} {e : Engine} :
    executeList p = (.ok r, e) ∧ r.success = true ↔
      Machine.Passes p Machine.start e.toMachine ∧ objection? e.toMachine = none ∧
        e.steps = (Machine.run p Machine.start).steps ∧ r = e.verdict none := by
  constructor
  · rintro ⟨h, hs⟩
    obtain hfin | ⟨f, hfail⟩ | ⟨fault, hfault, -⟩ := Machine.ending_cases p Machine.start
    · rw [executeList_of_passes ⟨hfin, rfl⟩] at h
      cases h
      refine ⟨⟨hfin, rfl⟩, ?_, rfl, rfl⟩
      rw [verdict_success, Option.isNone_iff_eq_none] at hs
      exact hs
    · rw [executeList, conclude_eq, hfail] at h
      cases h
      simp [verdict] at hs
    · rw [executeList, conclude_eq, hfault] at h
      cases h
  · rintro ⟨hp, hobj, hsteps, rfl⟩
    rw [executeList_of_passes hp, ← hsteps]
    refine ⟨rfl, ?_⟩
    rw [verdict_success, verdict, hobj]
    rfl

/-- A program of items has a report. -/
theorem exists_report_of_isItem {p : List Value} (hp : ∀ v ∈ p, v.IsItem) :
    ∃ r e, executeList p = (.ok r, e) := by
  rw [executeList, conclude_eq]
  obtain hfin | ⟨f, hfail⟩ := Machine.ending_of_isItem hp Machine.start
  · rw [hfin]
    exact ⟨_, _, rfl⟩
  · rw [hfail]
    exact ⟨_, _, rfl⟩

/-- A program none of whose steps fails passes. -/
theorem passes_of_steps {p : List Value} {r : Report} {e : Engine} (h : executeList p = (.ok r, e))
    (hs : ∀ s ∈ r.steps, s.success = true) : Machine.Passes p Machine.start e.toMachine := by
  obtain hfin | ⟨f, hfail⟩ | ⟨fault, hfault, -⟩ := Machine.ending_cases p Machine.start
  · rw [executeList_of_passes ⟨hfin, rfl⟩] at h
    cases h
    exact ⟨hfin, rfl⟩
  · obtain ⟨s, hlast, hfailed, -⟩ := Machine.getLast?_steps_of_failed hfail
    rw [executeList, conclude_eq, hfail] at h
    cases h
    have hsucc := hs s (List.mem_of_getLast? hlast)
    rw [hfailed] at hsucc
    cases hsucc
  · rw [executeList, conclude_eq, hfault] at h
    cases h

theorem finalStack_of_executeList {p : List Value} {r : Report} {e : Engine}
    (h : executeList p = (.ok r, e)) : r.finalStack = e.main.snapshot := by
  rw [executeList, conclude_eq] at h
  split at h <;> cases h <;> rfl

theorem steps_of_executeList {p : List Value} {r : Report} {e : Engine}
    (h : executeList p = (.ok r, e)) : r.steps = e.steps := by
  rw [executeList, conclude_eq] at h
  split at h <;> cases h <;> rfl

/-- An execution that is a success has a report that says so. -/
theorem exists_report_of_success {x : Except Fault Report × Engine}
    (h : (x.1.toOption.map (·.success)) = some true) :
    ∃ r e, x = (.ok r, e) ∧ r.success = true := by
  obtain ⟨y, e⟩ := x
  cases y with
  | error f => cases h
  | ok r => exact ⟨r, e, rfl, Option.some.inj h⟩

/-! ### Executions with the same verdict -/

/-- Two executions give reports with the same verdict on the same final stack, and leave the same
alternative stack behind.  The steps are not compared. -/
def SameVerdict (x y : Except Fault Report × Engine) : Prop :=
  ∃ r s, x.1 = .ok r ∧ y.1 = .ok s ∧ r.success = s.success ∧ r.error = s.error ∧
    r.finalStack = s.finalStack ∧ x.2.alt = y.2.alt

/-- Equivalent programs have the same verdict. -/
theorem sameVerdict_of_equivalent {p q : List Value} (h : Machine.Equivalent p q)
    (hp : ∀ v ∈ p, v.IsItem) : SameVerdict (executeList p) (executeList q) := by
  have hpq := h Machine.start
  have hmain : (Machine.run p Machine.start).machine.main =
      (Machine.run q Machine.start).machine.main := congrArg Stacks.main hpq.toStacks_eq
  have halt : (Machine.run p Machine.start).machine.alt =
      (Machine.run q Machine.start).machine.alt := congrArg Stacks.alt hpq.toStacks_eq
  rw [executeList, executeList, conclude_eq, conclude_eq, ← hpq.ending]
  obtain hfin | ⟨f, hfail⟩ := Machine.ending_of_isItem hp Machine.start
  · have hm := hpq.machine hfin
    rw [hfin]
    refine ⟨_, _, rfl, rfl, ?_, ?_, ?_, halt⟩ <;> simp [verdict, stack, hm]
  · rw [hfail]
    refine ⟨_, _, rfl, rfl, ?_, ?_, ?_, halt⟩ <;> simp [verdict, stack, hmain]

end Engine

end ScriptTutor
