/-
**Reports that can be replayed.**

A reader of a report replays the run from its steps alone: every step shows the stack before and
after.  That works only if the steps fit together, and if nothing comes after a step that failed.
Both are properties of all runs, from whatever machine they start; the report adds the verdict,
which the reader can check against the last stack and the branches that were left open.

Main definitions:

* `ScriptTutor.Leads` — steps that lead from one stack to another;
* `ScriptTutor.Report.IsTrace` — the steps of a report can be replayed;
* `ScriptTutor.Report.IsVerdict` — a report gives the verdict on the machine at the end of a run.

Main results:

* `ScriptTutor.Machine.run_leads` — **the steps of a run fit together**, and lead from the stack
  before the run to the stack after it;
* `ScriptTutor.Machine.success_of_mem_dropLast` — only the last step can have failed;
* `ScriptTutor.Engine.execute_coherent` — **every program of items has a report, and the report is
  coherent**.
-/

import ScriptTutor.Proofs.Machine.Passes

set_option relaxedAutoImplicit false
set_option autoImplicit false

namespace ScriptTutor

/-! ### Steps that fit together -/

/-- The steps lead from one stack to another, both bottom first: every step begins with the stack
that the one before it left. -/
inductive Leads : List Item → List Step → List Item → Prop
  | nil (xs : List Item) : Leads xs [] xs
  | cons {s : Step} {ss : List Step} {xs : List Item} (h : Leads s.after ss xs) :
      Leads s.before (s :: ss) xs

namespace Leads

variable {xs ys : List Item} {ss : List Step}

theorem before_head {s : Step} (h : Leads xs ss ys) (hs : ss.head? = some s) : s.before = xs := by
  cases h with
  | nil => cases hs
  | cons _ =>
      cases hs
      rfl

/-- The stack to which the steps lead is that of the last step. -/
theorem eq_after_getLast (h : Leads xs ss ys) : ys = (ss.getLast?.map Step.after).getD xs := by
  induction h with
  | nil xs => rfl
  | @cons s ss ys h ih =>
      rw [ih, List.getLast?_cons]
      cases ss.getLast? <;> rfl

/-- Every step begins with the stack that the one before it left. -/
theorem before_succ (h : Leads xs ss ys) {k : Nat} {s t : Step} (hs : ss[k]? = some s)
    (ht : ss[k + 1]? = some t) : t.before = s.after := by
  induction h generalizing k with
  | nil => cases hs
  | @cons u ss ys h ih =>
      cases k with
      | zero =>
          cases hs
          exact h.before_head (List.head?_eq_getElem? ▸ ht)
      | succ k => exact ih hs ht

end Leads

namespace Machine

/-- **The steps of a run fit together.** -/
theorem run_leads (p : List Value) (m : Machine) :
    Leads m.main.snapshot (run p m).steps (run p m).machine.main.snapshot := by
  induction p, m using run_induction with
  | nil m => exact .nil _
  | fault v p m e hi hrun =>
      rw [hrun]
      exact .nil _
  | failure v p m i f m' hi ho hrun =>
      rw [hrun]
      exact .cons (s := record i m m' (some f)) (.nil _)
  | success v p m i m' hi ho hrun ih =>
      rw [hrun]
      exact .cons (s := record i m m' none) ih

/-- Only the last step of a run can have failed. -/
theorem success_of_mem_dropLast (p : List Value) (m : Machine) :
    ∀ s ∈ (run p m).steps.dropLast, s.success = true := by
  induction p, m using run_induction with
  | nil m => simp
  | fault v p m e hi hrun => simp [hrun]
  | failure v p m i f m' hi ho hrun => simp [hrun]
  | success v p m i m' hi ho hrun ih =>
      intro s hs
      rw [hrun, Run.after] at hs
      cases hrest : (run p m').steps with
      | nil => simp [hrest] at hs
      | cons t ts =>
          rw [hrest] at ih hs
          rw [List.dropLast_cons_cons, List.mem_cons] at hs
          rcases hs with rfl | hs
          · rfl
          · exact ih s hs

theorem error_isSome_of_mem (p : List Value) (m : Machine) :
    ∀ s ∈ (run p m).steps, s.error.isSome = !s.success := by
  have hrecord : ∀ (i : Instruction) (m m' : Machine) (f : Option Failure),
      (record i m m' f).error.isSome = !(record i m m' f).success := by
    intro i m m' f
    cases f <;> rfl
  induction p, m using run_induction with
  | nil m => simp
  | fault v p m e hi hrun => simp [hrun]
  | failure v p m i f m' hi ho hrun =>
      rw [hrun]
      exact List.forall_mem_singleton.2 (hrecord i m m' (some f))
  | success v p m i m' hi ho hrun ih =>
      rw [hrun]
      exact List.forall_mem_cons.2 ⟨hrecord i m m' none, ih⟩

theorem getLast?_of_failed {p : List Value} {m : Machine} {s : Step} (hs : s ∈ (run p m).steps)
    (hfailed : s.success = false) : (run p m).steps.getLast? = some s := by
  have hne : (run p m).steps ≠ [] := List.ne_nil_of_mem hs
  have hsplit := List.dropLast_concat_getLast hne
  rw [← hsplit, List.mem_append, List.mem_singleton] at hs
  rcases hs with hs | rfl
  · have hsuccess := success_of_mem_dropLast p m s hs
    rw [hfailed] at hsuccess
    cases hsuccess
  · exact List.getLast?_eq_some_getLast hne

/-- The steps of a run are all successful exactly if the run does not fail. -/
theorem success_of_mem_iff {p : List Value} {m : Machine} :
    (∀ s ∈ (run p m).steps, s.success = true) ↔ ∀ error, (run p m).ending ≠ .failed error := by
  constructor
  · intro hall error hfail
    obtain ⟨s, hlast, hs, -⟩ := getLast?_steps_of_failed hfail
    have hsuccess := hall s (List.mem_of_getLast? hlast)
    rw [hs] at hsuccess
    cases hsuccess
  · induction p, m using run_induction with
    | nil m => simp
    | fault v p m e hi hrun => simp [hrun]
    | failure v p m i f m' hi ho hrun =>
        intro h
        rw [hrun] at h
        exact absurd rfl (h _)
    | success v p m i m' hi ho hrun ih =>
        intro h
        rw [hrun] at h ⊢
        exact List.forall_mem_cons.2 ⟨rfl, ih h⟩

end Machine

/-! ### Reports -/

/-- The steps of the report on a program can be replayed: they fit together from the empty stack to
the final one, nothing comes after a step that failed, and otherwise no instruction is missing. -/
structure Report.IsTrace (r : Report) (p : List Value) : Prop where
  before_head : ∀ s, r.steps.head? = some s → s.before = []
  before_succ : ∀ k s t, r.steps[k]? = some s → r.steps[k + 1]? = some t → t.before = s.after
  finalStack_eq : r.finalStack = (r.steps.getLast?.map Step.after).getD []
  success_of_mem_dropLast : ∀ s ∈ r.steps.dropLast, s.success = true
  error_isSome_iff : ∀ s ∈ r.steps, s.error.isSome = true ↔ s.success = false
  length_steps : (∀ s ∈ r.steps, s.success = true) → r.steps.length = p.length
  failedStep?_eq_some_iff : ∀ k, r.failedStep? = some k ↔
    k + 1 = r.steps.length ∧ ∃ s, r.steps[k]? = some s ∧ s.success = false
  failedStep?_eq_none_iff : r.failedStep? = none ↔ ∀ s ∈ r.steps, s.success = true

/-- The report gives the verdict on a run that left these branches open: the error of the step that
failed, or else an open branch, an empty stack or a false item on top, in this order. -/
structure Report.IsVerdict (r : Report) (branches : Branches) : Prop where
  error_eq_none_iff : r.error = none ↔ r.success = true
  error_of_failed : ∀ s ∈ r.steps, s.success = false → r.error = s.error
  success_iff : r.success = true ↔ (∀ s ∈ r.steps, s.success = true) ∧ branches = [] ∧
    ∃ x, r.finalStack.getLast? = some x ∧ x.isTrue = true
  error_of_open : (∀ s ∈ r.steps, s.success = true) → branches ≠ [] →
    r.error = some ("Unbalanced conditional: missing OP_ENDIF" : Text)
  error_of_empty : (∀ s ∈ r.steps, s.success = true) → branches = [] → r.finalStack = [] →
    r.error = some ("Script invalid: stack is empty" : Text)
  error_of_false : (∀ s ∈ r.steps, s.success = true) → branches = [] →
    ∀ x, r.finalStack.getLast? = some x → x.isTrue = false →
      r.error = some ("Script invalid: top stack item is false" : Text)

theorem Report.failedStep?_eq_some_iff {r : Report} {k : Nat} :
    r.failedStep? = some k ↔
      k + 1 = r.steps.length ∧ ∃ s, r.steps[k]? = some s ∧ s.success = false := by
  rw [Report.failedStep?]
  cases hlast : r.steps.getLast? with
  | none =>
      have hnil : r.steps = [] := List.getLast?_eq_none_iff.1 hlast
      simp [hnil]
  | some s =>
      have hpos : 0 < r.steps.length := List.length_pos_of_mem (List.mem_of_getLast? hlast)
      rw [List.getLast?_eq_getElem?] at hlast
      dsimp only
      constructor
      · intro h
        split at h
        · cases h
        · next hs =>
          obtain rfl := Option.some.inj h
          exact ⟨by omega, s, hlast, Bool.eq_false_iff.2 hs⟩
      · rintro ⟨hk, t, ht, hfailed⟩
        obtain rfl : k = r.steps.length - 1 := by omega
        cases hlast.symm.trans ht
        rw [hfailed]
        rfl

theorem Stack.getLast?_snapshot (s : Stack) : s.snapshot.getLast? = s.head? := List.getLast?_reverse

namespace Engine

/-- The engine that a run leaves behind. -/
def ofRun (r : Machine.Run) : Engine := ⟨r.machine, r.steps⟩

theorem executeList_engine (p : List Value) :
    (executeList p).2 = ofRun (Machine.run p Machine.start) := by
  rw [executeList, conclude_eq]
  split <;> rfl

theorem objection?_of_open {m : Machine} (hb : m.branches ≠ []) :
    objection? m = some ("Unbalanced conditional: missing OP_ENDIF" : Text) := by
  rw [objection?]
  split
  · rfl
  · contradiction
  · contradiction

theorem objection?_of_empty {m : Machine} (hb : m.branches = []) (hm : m.main = []) :
    objection? m = some ("Script invalid: stack is empty" : Text) := by
  rw [objection?, hb, hm]

theorem objection?_of_false {m : Machine} {x : Item} (hb : m.branches = [])
    (hm : m.main.head? = some x) (hx : x.isTrue = false) :
    objection? m = some ("Script invalid: top stack item is false" : Text) := by
  obtain ⟨rest, hm⟩ := List.head?_eq_some_iff.1 hm
  simp only [objection?, hb, hm, hx]
  rfl

theorem executeList_of_failed {p : List Value} {error : Option Text}
    (h : (Machine.run p Machine.start).ending = .failed error) :
    executeList p = (.ok (verdict error (ofRun (Machine.run p Machine.start))),
      ofRun (Machine.run p Machine.start)) := by
  rw [executeList, conclude_eq, h]
  rfl

theorem isTrace_verdict {p : List Value} (hp : ∀ v ∈ p, v.IsItem) (error : Option Text) :
    (verdict error (ofRun (Machine.run p Machine.start))).IsTrace p := by
  have hleads := Machine.run_leads p Machine.start
  refine
    { before_head := fun s hs => hleads.before_head hs
      before_succ := fun k s t hs ht => hleads.before_succ hs ht
      finalStack_eq := hleads.eq_after_getLast
      success_of_mem_dropLast := Machine.success_of_mem_dropLast p Machine.start
      error_isSome_iff := ?_
      length_steps := ?_
      failedStep?_eq_some_iff := fun k => Report.failedStep?_eq_some_iff
      failedStep?_eq_none_iff := ?_ }
  · intro s hs
    rw [Machine.error_isSome_of_mem p Machine.start s hs]
    cases s.success <;> simp
  · intro hall
    obtain hfin | ⟨f, hfail⟩ := Machine.ending_of_isItem hp Machine.start
    · exact Machine.Passes.length_steps ⟨hfin, rfl⟩
    · exact absurd hfail (Machine.success_of_mem_iff.1 hall _)
  · constructor
    · intro hnone s hs
      cases hsuccess : s.success with
      | true => rfl
      | false =>
          have hlast : (ofRun (Machine.run p Machine.start)).steps.getLast? = some s :=
            Machine.getLast?_of_failed hs hsuccess
          rw [Report.failedStep?, verdict_steps, hlast] at hnone
          simp [hsuccess] at hnone
    · intro hall
      refine Option.eq_none_iff_forall_ne_some.2 fun k hk => ?_
      obtain ⟨-, s, hs, hfailed⟩ := Report.failedStep?_eq_some_iff.1 hk
      have hsuccess := hall s (List.mem_of_getElem? hs)
      rw [hfailed] at hsuccess
      cases hsuccess

/-- The report on a run that finished names what is wrong with the machine at its end. -/
theorem isVerdict_of_finished {p : List Value}
    (hfin : (Machine.run p Machine.start).ending = .finished) :
    (verdict none (ofRun (Machine.run p Machine.start))).IsVerdict
      (Machine.run p Machine.start).machine.branches := by
  have hall := Machine.Passes.success_of_mem ⟨hfin, rfl⟩
  refine
    { error_eq_none_iff := by rw [verdict_success, Option.isNone_iff_eq_none]
      error_of_failed := ?_
      success_iff := ?_
      error_of_open := fun _ hb => objection?_of_open hb
      error_of_empty := fun _ hb hm => objection?_of_empty hb (List.reverse_eq_nil_iff.1 hm)
      error_of_false := fun _ hb x hx => objection?_of_false hb (Stack.getLast?_snapshot _ ▸ hx) }
  · intro s hs hfailed
    rw [hall s hs] at hfailed
    cases hfailed
  · rw [verdict_success, Option.isNone_iff_eq_none, verdict_finalStack, Stack.getLast?_snapshot]
    constructor
    · intro hobj
      obtain ⟨hb, x, rest, hm, hx⟩ := objection?_eq_none_iff.1 hobj
      exact ⟨hall, hb, x, by rw [hm]; rfl, hx⟩
    · rintro ⟨-, hb, x, hm, hx⟩
      obtain ⟨rest, hm⟩ := List.head?_eq_some_iff.1 hm
      exact objection?_eq_none_iff.2 ⟨hb, x, rest, hm, hx⟩

/-- The report on a run that failed gives the error of the step that failed. -/
theorem isVerdict_of_failed {p : List Value} {f : Failure}
    (hfail : (Machine.run p Machine.start).ending = .failed (some f.message)) :
    (verdict (some f.message) (ofRun (Machine.run p Machine.start))).IsVerdict
      (Machine.run p Machine.start).machine.branches := by
  obtain ⟨t, hlast, ht, herror⟩ := Machine.getLast?_steps_of_failed hfail
  have hnot : ¬ ∀ s ∈ (Machine.run p Machine.start).steps, s.success = true :=
    fun hall => Machine.success_of_mem_iff.1 hall _ hfail
  refine
    { error_eq_none_iff := by rw [verdict_success, Option.isNone_iff_eq_none]
      error_of_failed := ?_
      success_iff := ?_
      error_of_open := fun hall => absurd hall hnot
      error_of_empty := fun hall => absurd hall hnot
      error_of_false := fun hall => absurd hall hnot }
  · intro s hs hfailed
    cases (Machine.getLast?_of_failed hs hfailed).symm.trans hlast
    exact herror.symm
  · constructor
    · intro hs
      cases hs
    · rintro ⟨hall, -⟩
      exact absurd hall hnot

/-- **Every program of items has a report, and the report is coherent**: its steps can be replayed,
and its verdict is the one on the machine that the run left. -/
theorem execute_coherent {p : List Value} (hp : ∀ v ∈ p, v.IsItem) (e : Engine) :
    ∃ r e', e.execute (.list p) = (.ok r, e') ∧ r.IsTrace p ∧ r.IsVerdict e'.branches := by
  rw [execute_list]
  obtain hfin | ⟨f, hfail⟩ := Machine.ending_of_isItem hp Machine.start
  · exact ⟨_, _, executeList_of_passes ⟨hfin, rfl⟩, isTrace_verdict hp none,
      isVerdict_of_finished hfin⟩
  · exact ⟨_, _, executeList_of_failed hfail, isTrace_verdict hp (some f.message),
      isVerdict_of_failed hfail⟩

/-- The verification in the second arm of a conditional fails after it has taken its item off. -/
theorem execute_coherent_failing :
    ∃ r e', fresh.execute (.list [.item (.number 0), .item (.flag false), .item (.text "op_if"),
        .item (.text "OP_ELSE"), .item (.text "OP_VERIFY"), .buffer [7]]) = (.ok r, e') ∧
      r.IsTrace [.item (.number 0), .item (.flag false), .item (.text "op_if"),
        .item (.text "OP_ELSE"), .item (.text "OP_VERIFY"), .buffer [7]] ∧
      r.IsVerdict e'.branches :=
  execute_coherent (by simp [Value.IsItem, Value.toItem]) fresh

end Engine

end ScriptTutor
