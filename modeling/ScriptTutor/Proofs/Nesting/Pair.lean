/-
**Locking scripts that are well nested.**

An unlocking script may be anything: it may open branches and leave them open, skip what follows, or
stop in a second arm.  None of this gets it past a locking script that is well nested.  Such a
script gives the branches back as it found them, so that a success, which allows no open branch,
means that there was none when the locking script began.

Main results:

* `ScriptTutor.Engine.passes_of_executePair` — a pair succeeds only by way of a machine without open
  branches, on which the locking script begins;
* `ScriptTutor.Engine.executePair_wellNested` — **an unlocking script can neither skip nor capture a
  well nested locking script**.
-/

import ScriptTutor.Proofs.Nesting.Basic

set_option relaxedAutoImplicit false
set_option autoImplicit false

namespace ScriptTutor.Engine

/-- A pair succeeds only by way of a machine without open branches, on which the locking script
begins. -/
theorem passes_of_executePair {us ls : List Value} (hl : WellNested ls) {e e' : Engine} {r : Report}
    (h : e.executePair (.list us) (.list ls) = (.ok r, e')) (hs : r.success = true) :
    ∃ m, Machine.Passes us Machine.start m ∧ m.branches = [] ∧
      Machine.Passes ls m e'.toMachine := by
  rw [executePair_lists] at h
  obtain ⟨hall, hobj, -, -⟩ := executeList_success_iff.1 ⟨h, hs⟩
  obtain ⟨m, hu, hl'⟩ := Machine.passes_append_iff.1 hall
  have hclosed := (objection?_eq_none_iff.1 hobj).1
  exact ⟨m, hu, (hl.branches_of_passes hl').symm.trans hclosed, hl'⟩

/-- **An unlocking script can neither skip nor capture a well nested locking script.**  If the pair
succeeds, no step of the unlocking script failed and it left no branch open.  Every instruction of
the locking script that stands outside all blocks, the first one among them, is taken on a machine
without open branches, and so it is executed.  Every instruction of the two scripts has its step. -/
theorem executePair_wellNested {us ls : List Value} (hl : WellNested ls) {e e' : Engine}
    {r : Report} (h : e.executePair (.list us) (.list ls) = (.ok r, e')) (hs : r.success = true) :
    (∃ q f, executeList us = (.ok q, f) ∧ (∀ s ∈ q.steps, s.success = true) ∧ f.branches = []) ∧
    (∀ front v rest, ls = front ++ v :: rest → WellNested front →
      ∃ q f s m, executeList (us ++ front) = (.ok q, f) ∧ f.branches = [] ∧ f.executing = true ∧
        Machine.step v f.toMachine = (.ok s, m) ∧ s.success = true ∧
        r.steps[us.length + front.length]? = some s) ∧
    r.steps.length = us.length + ls.length := by
  obtain ⟨m, hu, hm, hrest⟩ := passes_of_executePair hl h hs
  rw [executePair_lists] at h
  obtain ⟨hall, -, hsteps, rfl⟩ := executeList_success_iff.1 ⟨h, hs⟩
  refine ⟨⟨_, _, executeList_of_passes hu, hu.success_of_mem, hm⟩, ?_, ?_⟩
  · rintro front v rest rfl hfront
    obtain ⟨n, hf, hv⟩ := Machine.passes_append_iff.1 hrest
    have hn : n.branches = [] := (hfront.branches_of_passes hf).trans hm
    obtain ⟨i, n', hi, ho, -⟩ := Machine.passes_cons_iff.1 hv
    have hreach : Machine.Passes (us ++ front) Machine.start n :=
      Machine.passes_append_iff.2 ⟨m, hu, hf⟩
    have hstep := Machine.step_eq hi n
    have hat := hreach.getElem?_steps hi rest
    rw [ho] at hstep hat
    refine ⟨_, _, _, _, executeList_of_passes hreach, hn, ?_, hstep, rfl, ?_⟩
    · rw [Machine.executing, hn]
      rfl
    · rw [verdict_steps, hsteps, ← List.length_append]
      simpa using hat
  · rw [verdict_steps, hsteps, hall.length_steps, List.length_append]

/-- A locking script with a conditional in it, unlocked by the item that decides it. -/
theorem executePair_wellNested_blockElse :
    ∃ r e', fresh.executePair (.list [.item (.number 7), .item (.flag true)])
        (.list [.item (.text "op_if"), .item (.text "OP_DUP"), .item (.text "OP_ELSE"),
          .item (.text "OP_DROP"), .item (.text "OP_ENDIF")]) = (.ok r, e') ∧
      r.success = true ∧ r.steps.length = 2 + 5 := by
  have hflow : ∀ {t : Text} {f : Flow}, f.name = t.upper →
      Value.flow? (.item (.text t)) = some f := Flow.ofName?_eq_some_iff.2
  have hplain : ∀ {t : Text}, Flow.ofName? t.upper = none → WellNested [.item (.text t)] :=
    fun h => .plain h .nil
  have hif : Value.flow? (.item (.text "op_if")) = some (.opening true) :=
    hflow (by decide +kernel)
  have hl : WellNested [.item (.text "op_if"), .item (.text "OP_DUP"), .item (.text "OP_ELSE"),
      .item (.text "OP_DROP"), .item (.text "OP_ENDIF")] :=
    .blockElse hif (hplain (t := "OP_DUP") (by decide +kernel)) (hflow (by decide +kernel))
      (hplain (t := "OP_DROP") (by decide +kernel)) (hflow (by decide +kernel)) .nil
  obtain ⟨r, e', h, hs⟩ := exists_report_of_success (x := fresh.executePair
    (.list [.item (.number 7), .item (.flag true)])
    (.list [.item (.text "op_if"), .item (.text "OP_DUP"), .item (.text "OP_ELSE"),
      .item (.text "OP_DROP"), .item (.text "OP_ENDIF")])) (by decide +kernel)
  exact ⟨r, e', h, hs, (executePair_wellNested hl h hs).2.2⟩

end ScriptTutor.Engine
