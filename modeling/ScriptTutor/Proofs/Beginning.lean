/-
**Programs and their beginnings.**

A run takes the values of a program in order and never looks ahead.  So what stands behind the first
instruction that fails has no influence, be it an item or not, and the run of a beginning of a
program is a beginning of the run of the program.  The reports show less than the run carries along:
the alternative stack and the open branches are no part of them.  That is why all laws here are laws
of runs first, where both programs pass through one and the same machine.

Main results:

* `ScriptTutor.Machine.length_steps_le` — a run takes one step for each value at most;
* `ScriptTutor.Machine.steps_isPrefix_append` — **the steps of a beginning are a beginning of the
  steps**;
* `ScriptTutor.Machine.steps_take` — as many values leave exactly as many steps, as far as the run
  goes;
* `ScriptTutor.Engine.execute_append` — **the first failure halts**, and an execution without a
  failure is extended by what is put behind the program.
-/

import ScriptTutor.Proofs.Trace

set_option relaxedAutoImplicit false
set_option autoImplicit false

namespace ScriptTutor

namespace Machine

/-- A run takes one step for each value at most. -/
theorem length_steps_le (p : List Value) (m : Machine) : (run p m).steps.length ≤ p.length := by
  induction p, m using run_induction with
  | nil m => exact Nat.le_refl 0
  | fault v p m e hi hrun =>
      rw [hrun]
      exact Nat.zero_le _
  | failure v p m i f m' hi ho hrun =>
      rw [hrun]
      exact Nat.succ_le_succ (Nat.zero_le _)
  | success v p m i m' hi ho hrun ih =>
      rw [hrun]
      exact Nat.succ_le_succ ih

/-- **The steps of a beginning are a beginning of the steps.** -/
theorem steps_isPrefix_append (p q : List Value) (m : Machine) :
    (run p m).steps <+: (run (p ++ q) m).steps := by
  by_cases h : (run p m).ending = .finished
  · rw [run_append_of_finished h]
    exact List.prefix_append _ _
  · have hsame : run (p ++ q) m = run p m := run_append_of_not_finished h q
    exact hsame ▸ List.prefix_rfl

/-- As far as the run of a program goes, its first values leave exactly its first steps. -/
theorem steps_take {p : List Value} {m : Machine} {k : Nat} (hk : k ≤ (run p m).steps.length) :
    (run (p.take k) m).steps = (run p m).steps.take k := by
  have hlen : (p.take k).length = k :=
    List.length_take_of_le (Nat.le_trans hk (length_steps_le p m))
  have hprefix : (run (p.take k) m).steps <+: (run p m).steps := by
    have happend := steps_isPrefix_append (p.take k) (p.drop k) m
    rwa [List.take_append_drop] at happend
  -- if the beginning halted early, the whole program would halt there and have fewer steps
  have hfull : (run (p.take k) m).steps.length = k := by
    by_cases hfin : (run (p.take k) m).ending = .finished
    · have hall : Passes (p.take k) m (run (p.take k) m).machine := ⟨hfin, rfl⟩
      exact hall.length_steps.trans hlen
    · have hhalt := run_append_of_not_finished hfin (p.drop k)
      rw [List.take_append_drop] at hhalt
      have hle := length_steps_le (p.take k) m
      rw [hhalt] at hk
      omega
  rw [List.prefix_iff_eq_take.1 hprefix, hfull]

end Machine

namespace Engine

theorem steps_eq_run {p : List Value} {r : Report} {e : Engine} (h : executeList p = (.ok r, e)) :
    r.steps = (Machine.run p Machine.start).steps := by
  have hengine : e = ofRun (Machine.run p Machine.start) := by rw [← executeList_engine, h]
  rw [steps_of_executeList h, hengine]
  rfl

theorem finalStack_eq_after {p : List Value} {r : Report} {e : Engine}
    (h : executeList p = (.ok r, e)) :
    r.finalStack = (r.steps.getLast?.map Step.after).getD [] := by
  have hengine : e = ofRun (Machine.run p Machine.start) := by rw [← executeList_engine, h]
  have hleads := Machine.run_leads p Machine.start
  rw [finalStack_of_executeList h, steps_eq_run h, hengine]
  exact hleads.eq_after_getLast

/-- A program that fails is not executed any further, whatever is put behind it. -/
theorem executeList_append_of_failed {p : List Value} {r : Report} {e : Engine}
    (h : executeList p = (.ok r, e)) (hfailed : ∃ s ∈ r.steps, s.success = false) (q : List Value) :
    executeList (p ++ q) = (.ok r, e) := by
  have hnot : (Machine.run p Machine.start).ending ≠ .finished := by
    intro hfin
    obtain ⟨s, hs, hfailed⟩ := hfailed
    rw [steps_eq_run h] at hs
    have hsuccess := Machine.Passes.success_of_mem ⟨hfin, rfl⟩ s hs
    rw [hfailed] at hsuccess
    cases hsuccess
  rw [executeList, Machine.run_append_of_not_finished hnot]
  exact h

/-- The steps of a program none of which fails begin the steps of every longer program that has a
report. -/
theorem steps_eq_take_of_append {p q : List Value} {r r' : Report} {e e' : Engine}
    (h : executeList p = (.ok r, e)) (hs : ∀ s ∈ r.steps, s.success = true)
    (h' : executeList (p ++ q) = (.ok r', e')) : r.steps = r'.steps.take p.length := by
  have hlen := (passes_of_steps h hs).length_steps
  have hprefix := Machine.steps_isPrefix_append p q Machine.start
  rw [steps_eq_run h, steps_eq_run h', ← hlen]
  exact List.prefix_iff_eq_take.1 hprefix

/-- The first values of a program have a report on exactly its first steps, and its final stack is
the one that the last of them left. -/
theorem exists_report_take {p : List Value} (hp : ∀ v ∈ p, v.IsItem) {r : Report} {e : Engine}
    (h : executeList p = (.ok r, e)) {k : Nat} (hpos : 0 < k) (hk : k ≤ r.steps.length) :
    ∃ s f t, executeList (p.take k) = (.ok s, f) ∧ s.steps = r.steps.take k ∧
      r.steps[k - 1]? = some t ∧ s.finalStack = t.after := by
  obtain ⟨s, f, hs⟩ := exists_report_of_isItem fun v hv => hp v (List.mem_of_mem_take hv)
  have hsteps : s.steps = r.steps.take k := by
    rw [steps_eq_run h] at hk ⊢
    rw [steps_eq_run hs]
    exact Machine.steps_take hk
  have hlt : k - 1 < r.steps.length := by omega
  refine ⟨s, f, r.steps[k - 1], hs, hsteps, List.getElem?_eq_getElem hlt, ?_⟩
  have hlast : s.steps.getLast? = some r.steps[k - 1] := by
    rw [hsteps, List.getLast?_take, if_neg (Nat.ne_of_gt hpos), List.getElem?_eq_getElem hlt]
    rfl
  rw [finalStack_eq_after hs, hlast]
  rfl

/-- **The first failure halts, and an execution without a failure is extended** by what is put
behind the program.  What stands behind a failure need not even consist of items.  As far as an
execution goes, the first values of the program have a report on exactly the first steps. -/
theorem execute_append {p : List Value} (hp : ∀ v ∈ p, v.IsItem) (e e' : Engine) :
    ∃ r f, e.execute (.list p) = (.ok r, f) ∧
      ((∃ s ∈ r.steps, s.success = false) →
        ∀ q, e'.execute (.list (p ++ q)) = (.ok r, f)) ∧
      ((∀ s ∈ r.steps, s.success = true) → r.steps.length = p.length ∧
        ∀ q r' f', e'.execute (.list (p ++ q)) = (.ok r', f') →
          r.steps = r'.steps.take p.length) ∧
      ∀ k, 0 < k → k ≤ r.steps.length →
        ∃ s g t, e'.execute (.list (p.take k)) = (.ok s, g) ∧ s.steps = r.steps.take k ∧
          r.steps[k - 1]? = some t ∧ s.finalStack = t.after := by
  obtain ⟨r, f, h⟩ := exists_report_of_isItem hp
  refine ⟨r, f, h, ?_, ?_, ?_⟩
  · intro hfailed q
    exact executeList_append_of_failed h hfailed q
  · intro hs
    have hlen := (passes_of_steps h hs).length_steps
    refine ⟨(congrArg List.length (steps_eq_run h)).trans hlen, ?_⟩
    intro q r' f' h'
    exact steps_eq_take_of_append h hs h'
  · intro k hpos hk
    exact exists_report_take hp h hpos hk

/-- A second verification fails, so that neither the verification nor the absent value behind it are
reached. -/
theorem execute_append_halted :
    ∃ r f, fresh.execute (.list [.item (.number 1), .item (.text "OP_DUP"),
        .item (.text "OP_VERIFY"), .buffer [], .item (.text "op_verify"), .item (.text "OP_IF")]) =
        (.ok r, f) ∧
      (∃ s ∈ r.steps, s.success = false) ∧
      fresh.execute (.list ([.item (.number 1), .item (.text "OP_DUP"), .item (.text "OP_VERIFY"),
        .buffer [], .item (.text "op_verify"), .item (.text "OP_IF")] ++
          [.item (.text "OP_VERIFY"), .absent])) = (.ok r, f) ∧
      ∃ s g t, fresh.execute (.list ([.item (.number 1), .item (.text "OP_DUP"),
        .item (.text "OP_VERIFY"), .buffer [], .item (.text "op_verify"),
        .item (.text "OP_IF")].take 5)) = (.ok s, g) ∧ s.steps = r.steps.take 5 ∧
          r.steps[4]? = some t ∧ s.finalStack = t.after := by
  obtain ⟨r, f, h, hhalts, -, htake⟩ := execute_append (p := [.item (.number 1),
    .item (.text "OP_DUP"), .item (.text "OP_VERIFY"), .buffer [], .item (.text "op_verify"),
    .item (.text "OP_IF")]) (by simp [Value.IsItem, Value.toItem]) fresh fresh
  have hshape : (fresh.execute (.list [.item (.number 1), .item (.text "OP_DUP"),
      .item (.text "OP_VERIFY"), .buffer [], .item (.text "op_verify"),
      .item (.text "OP_IF")])).1.toOption.map (fun r => r.steps.map (·.success)) =
        some [true, true, true, true, false] := by decide +kernel
  rw [h] at hshape
  have hsuccess : r.steps.map (·.success) = [true, true, true, true, false] :=
    Option.some.inj hshape
  have hfailed : ∃ s ∈ r.steps, s.success = false :=
    List.mem_map.1 (hsuccess ▸ by decide)
  have hlen : r.steps.length = 5 := by
    rw [← List.length_map (f := (·.success)), hsuccess]
    rfl
  exact ⟨r, f, h, hfailed, hhalts hfailed _, htake 5 (by decide) (Nat.le_of_eq hlen.symm)⟩

end Engine

end ScriptTutor
