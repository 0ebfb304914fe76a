/-
**Conditionals as blocks.**

A literal, an opening opcode, a first arm, the opcode of the second arm, a second arm and a closing
opcode are together a conditional with a constant test.  It is equivalent to the arm that the
literal selects, wherever it stands, as long as the other arm may be skipped.  The selected arm may
fail midway, and the program around the conditional may leave branches open before it or after it.

Main results:

* `ScriptTutor.Machine.equivalent_conditional`, `ScriptTutor.Machine.equivalent_conditional_one` —
  **a conditional is equivalent to its selected arm**, with two arms and with one;
* `ScriptTutor.Engine.executeList_conditional` — inside any program, a conditional may be replaced
  by its selected arm.
-/

import ScriptTutor.Proofs.Nesting.Basic

set_option relaxedAutoImplicit false
set_option autoImplicit false

namespace ScriptTutor

namespace Machine

/-! ### The parts of a conditional -/

section

variable {c i o e : Value} {x : Item} {expected : Bool} {a b : List Value}

/-- The test of a conditional leaves the stacks as they are and opens a branch, which is active if
the test is executed and the literal is as expected. -/
theorem passes_test (hc : Instruction.ofValue c = .ok (.literal x))
    (hi : i.flow? = some (.opening expected)) (m : Machine) :
    Passes [c, i] m
      (m.withBranches (m.branches.enter (m.executing && (x.isTrue == expected)))) := by
  have hi := Instruction.ofValue_of_flow? hi
  cases hm : m.executing with
  | false =>
      refine passes_cons_iff.2 ⟨_, m, hc, by rw [obey_literal, hm]; rfl, ?_⟩
      exact passes_cons_iff.2 ⟨_, _, hi, obey_opening_of_skipped hm expected, passes_nil_iff.2 rfl⟩
  | true =>
      refine passes_cons_iff.2 ⟨_, { m with main := x :: m.main }, hc,
        by rw [obey_literal, if_pos hm], ?_⟩
      refine passes_cons_iff.2 ⟨_, _, hi, ?_, passes_nil_iff.2 rfl⟩
      have hex : Machine.executing { m with main := x :: m.main } = true := hm
      rw [obey_opening, openBranch, if_pos hex]
      rfl

theorem passes_otherwise (ho : o.flow? = some .otherwise) (s : Stacks) (t u : Bool)
    (bs : Branches) : Passes [o] ⟨s, ⟨t, u, false⟩ :: bs⟩ ⟨s, ⟨!t, u, true⟩ :: bs⟩ :=
  passes_cons_iff.2 ⟨_, _, Instruction.ofValue_of_flow? ho, obey_otherwise rfl rfl,
    passes_nil_iff.2 rfl⟩

theorem passes_close (he : e.flow? = some .close) (s : Stacks) (f : Frame) (bs : Branches) :
    Passes [e] ⟨s, f :: bs⟩ ⟨s, bs⟩ :=
  passes_cons_iff.2 ⟨_, _, Instruction.ofValue_of_flow? he, obey_close rfl, passes_nil_iff.2 rfl⟩

theorem Passes.sameOutcome {p q : List Value} {m mid : Machine} {r : Run} (hp : Passes p m mid)
    (h : (run q mid).SameOutcome r) : (run (p ++ q) m).SameOutcome r := by
  rw [run_append_of_finished hp.1, hp.2]
  exact ⟨h.ending, h.toStacks_eq, h.branches⟩

/-- Programs that pass to one machine have the same outcome. -/
theorem Passes.sameOutcome_of_passes {p q : List Value} {m n m' : Machine} (hp : Passes p m m')
    (hq : Passes q n m') : (run p m).SameOutcome (run q n) := by
  have hm : (run p m).machine = (run q n).machine := hp.2.trans hq.2.symm
  exact ⟨hp.1.trans hq.1.symm, congrArg Machine.toStacks hm, fun _ => congrArg Machine.branches hm⟩

/-- An arm that is executed has the same outcome as it has without the conditional, if what follows
it takes the branch away again. -/
theorem sameOutcome_arm (ha : WellNested a) {q : List Value} {m : Machine} {bs : Branches}
    (h : bs.executing = m.executing) (hq : ∀ s, Passes q ⟨s, bs⟩ ⟨s, m.branches⟩) :
    (run (a ++ q) (m.withBranches bs)).SameOutcome (run a m) := by
  have htrace : (run a (m.withBranches bs)).SameTrace (run a m) := ha.sameTrace h
  by_cases hfin : (run a m).ending = .finished
  · obtain ⟨s, hs, hm⟩ := ha.exists_passes h hfin
    have hall := passes_append_iff.2 ⟨_, hs, hq s⟩
    exact hall.sameOutcome_of_passes hm
  · have hfin' : (run a (m.withBranches bs)).ending ≠ .finished := htrace.ending ▸ hfin
    rw [run_append_of_not_finished hfin']
    exact ⟨htrace.ending, htrace.toStacks_eq, fun h => absurd h hfin'⟩

/-! ### Conditionals -/

/-- **A conditional is equivalent to its selected arm.** -/
theorem equivalent_conditional (hc : Instruction.ofValue c = .ok (.literal x))
    (hi : i.flow? = some (.opening expected)) (ho : o.flow? = some .otherwise)
    (he : e.flow? = some .close) (ha : WellNested a) (hb : WellNested b)
    (hskip : ∀ v ∈ if x.isTrue = expected then b else a, v.IsHarmless) :
    Equivalent ([c, i] ++ a ++ [o] ++ b ++ [e]) (if x.isTrue = expected then a else b) := by
  intro m
  have htest := passes_test hc hi m
  by_cases hx : x.isTrue = expected
  · rw [if_pos hx] at hskip ⊢
    rw [beq_iff_eq.2 hx, Bool.and_true] at htest
    rw [List.append_assoc, List.append_assoc, List.append_assoc]
    refine htest.sameOutcome (sameOutcome_arm ha ?_ fun s => ?_)
    · rw [Branches.executing_enter]
      exact Bool.and_self _
    · -- the second arm is switched off, since the first one was on
      refine passes_append_iff.2 ⟨_, passes_otherwise ho s _ _ _, ?_⟩
      refine passes_append_iff.2 ⟨_, hb.passes_of_skipped hskip ?_, passes_close he s _ _⟩
      exact Bool.and_not_self _
  · rw [if_neg hx] at hskip ⊢
    rw [beq_eq_false_iff_ne.2 hx, Bool.and_false] at htest
    have hfirst := ha.passes_of_skipped hskip
      (m := m.withBranches (m.branches.enter false)) (Bool.and_false _)
    have hprefix := passes_append_iff.2 ⟨_, passes_append_iff.2 ⟨_, htest, hfirst⟩,
      passes_otherwise ho m.toStacks _ _ _⟩
    rw [List.append_assoc]
    refine hprefix.sameOutcome (sameOutcome_arm hb ?_ fun s => passes_close he s _ _)
    exact Bool.and_true _

/-- **A conditional with one arm** is equivalent to that arm, or to nothing. -/
theorem equivalent_conditional_one (hc : Instruction.ofValue c = .ok (.literal x))
    (hi : i.flow? = some (.opening expected)) (he : e.flow? = some .close) (ha : WellNested a)
    (hskip : ∀ v ∈ if x.isTrue = expected then [] else a, v.IsHarmless) :
    Equivalent ([c, i] ++ a ++ [e]) (if x.isTrue = expected then a else []) := by
  intro m
  have htest := passes_test hc hi m
  by_cases hx : x.isTrue = expected
  · rw [if_pos hx]
    rw [beq_iff_eq.2 hx, Bool.and_true] at htest
    rw [List.append_assoc]
    refine htest.sameOutcome (sameOutcome_arm ha ?_ fun s => passes_close he s _ _)
    rw [Branches.executing_enter]
    exact Bool.and_self _
  · rw [if_neg hx] at hskip ⊢
    rw [beq_eq_false_iff_ne.2 hx, Bool.and_false] at htest
    have hfirst := ha.passes_of_skipped hskip
      (m := m.withBranches (m.branches.enter false)) (Bool.and_false _)
    have hall := passes_append_iff.2 ⟨_, passes_append_iff.2 ⟨_, htest, hfirst⟩,
      passes_close he m.toStacks _ _⟩
    exact hall.sameOutcome_of_passes (passes_nil_iff.2 rfl)

end

end Machine

namespace Engine

/-- Inside any program, a program may be replaced by an equivalent one. -/
theorem sameVerdict_replace {p q : List Value} (h : Machine.Equivalent p q)
    (before after : List Value) (hitems : ∀ v ∈ before ++ p ++ after, v.IsItem) :
    SameVerdict (executeList (before ++ p ++ after)) (executeList (before ++ q ++ after)) :=
  sameVerdict_of_equivalent ((h.append_left before).append_right after) hitems

/-- **Inside any program, a conditional may be replaced by its selected arm.**  The program before
it may leave branches open, executed or not, and the program after it may close or open others.  The
opcode of the second arm may be left out if that arm is empty. -/
theorem executeList_conditional {before a b after : List Value} {c i o e : Value} {x : Item}
    {expected : Bool} (hitems : ∀ v ∈ before ++ a ++ b ++ after, v.IsItem)
    (hc : Instruction.ofValue c = .ok (.literal x)) (hi : i.flow? = some (.opening expected))
    (ho : o.flow? = some .otherwise) (he : e.flow? = some .close) (ha : WellNested a)
    (hb : WellNested b) (hskip : ∀ v ∈ if x.isTrue = expected then b else a, v.IsHarmless) :
    SameVerdict (executeList (before ++ ([c, i] ++ a ++ [o] ++ b ++ [e]) ++ after))
      (executeList (before ++ (if x.isTrue = expected then a else b) ++ after)) ∧
    (b = [] → SameVerdict (executeList (before ++ ([c, i] ++ a ++ [e]) ++ after))
      (executeList (before ++ (if x.isTrue = expected then a else b) ++ after))) := by
  have hci : c.IsItem := Instruction.isItem_of_ofValue hc
  have hflow : ∀ {v : Value} {f : Flow}, v.flow? = some f → v.IsItem := fun h =>
    Instruction.isItem_of_ofValue (Instruction.ofValue_of_flow? h)
  have hnil : ∀ v ∈ ([] : List Value), v.IsItem := List.forall_mem_nil _
  simp only [List.forall_mem_append] at hitems
  obtain ⟨⟨⟨hbefore, hia⟩, hib⟩, hafter⟩ := hitems
  constructor
  · refine sameVerdict_replace (Machine.equivalent_conditional hc hi ho he ha hb hskip) _ _ ?_
    simp only [List.forall_mem_append, List.forall_mem_cons]
    exact ⟨⟨hbefore, ⟨⟨⟨⟨⟨hci, hflow hi, hnil⟩, hia⟩, hflow ho, hnil⟩, hib⟩, hflow he,
      hnil⟩⟩, hafter⟩
  · rintro rfl
    refine sameVerdict_replace (Machine.equivalent_conditional_one hc hi he ha hskip) _ _ ?_
    simp only [List.forall_mem_append, List.forall_mem_cons]
    exact ⟨⟨hbefore, ⟨⟨hci, hflow hi, hnil⟩, hia⟩, hflow he, hnil⟩, hafter⟩

/-- A conditional inside a skipped block.  The arm that is not selected has a block of its own, and
the other one gives the script up. -/
theorem executeList_conditional_skipped :
    SameVerdict
      (executeList (([.item (.number 0), .item (.text "op_if")] : List Value) ++
        ([.item (.flag true), .item (.text "OP_NOTIF")] ++
          [.item (.text "OP_VERIFY"), .item (.text "OP_IF"), .item (.text "OP_ENDIF")] ++
          [.item (.text "OP_ELSE")] ++ [.item (.text "OP_RETURN")] ++ [.item (.text "OP_ENDIF")]) ++
        [.item (.text "OP_ELSE"), .item (.number 5), .item (.text "OP_ENDIF")]))
      (executeList (([.item (.number 0), .item (.text "op_if")] : List Value) ++
        [.item (.text "OP_RETURN")] ++
        [.item (.text "OP_ELSE"), .item (.number 5), .item (.text "OP_ENDIF")])) := by
  have hflow : ∀ {t : Text} {f : Flow}, f.name = t.upper →
      Value.flow? (.item (.text t)) = some f := Flow.ofName?_eq_some_iff.2
  have hplain : ∀ {t : Text}, Flow.ofName? t.upper = none → WellNested [.item (.text t)] :=
    fun h => .plain h .nil
  have hsafe : ∀ {t : Text}, Catalog.isEnabled t = true → t.upper ≠ "OP_RETURN" →
      Value.IsHarmless (.item (.text t)) := by
    intro t he hr
    refine ⟨⟨_, rfl⟩, ?_⟩
    rintro _ ⟨⟩ -
    exact ⟨he, hr⟩
  have hif : Value.flow? (.item (.text "OP_IF")) = some (.opening true) :=
    hflow (by decide +kernel)
  have hnotif : Value.flow? (.item (.text "OP_NOTIF")) = some (.opening false) :=
    hflow (by decide +kernel)
  refine (executeList_conditional (x := .flag true) ?_ rfl hnotif (hflow (by decide +kernel))
    (hflow (by decide +kernel)) ?_ (hplain (by decide +kernel)) ?_).1
  · simp [Value.IsItem]
  · exact .plain (by decide +kernel) (.block hif .nil (hflow (by decide +kernel)) .nil)
  · have hall : ∀ v ∈ [Value.item (.text "OP_VERIFY"), .item (.text "OP_IF"),
        .item (.text "OP_ENDIF")], v.IsHarmless := by
      simp only [List.forall_mem_cons]
      exact ⟨hsafe (by decide +kernel) (by decide +kernel),
        hsafe (by decide +kernel) (by decide +kernel),
        hsafe (by decide +kernel) (by decide +kernel), List.forall_mem_nil _⟩
    exact hall

end Engine

end ScriptTutor
