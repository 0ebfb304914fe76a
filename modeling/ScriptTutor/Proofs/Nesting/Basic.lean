/-
**Well nested programs.**

The machine keeps a flat list of open branches, but a program that is well nested deals with
branches like a program with blocks: it closes what it opens, and it neither closes nor switches
what was open before.  All results here go by induction on the nesting, and what carries them is
that the branches below those that the program opened itself are never touched.

Main definitions:

* `ScriptTutor.WellNested` — complete blocks, properly nested, with one second arm at most;
* `ScriptTutor.Machine.Run.SameTrace` — two runs take the same steps on the same stacks.

Main results:

* `ScriptTutor.WellNested.branches_of_passes` — **a well nested program that runs through leaves
  the branches as it found them**;
* `ScriptTutor.WellNested.sameTrace` — **what was open before does not matter** to it, apart from
  whether it is executed;
* `ScriptTutor.WellNested.passes_of_skipped` — **skipped as a whole**, it does nothing.
-/

import ScriptTutor.Proofs.Machine.Passes

set_option relaxedAutoImplicit false
set_option autoImplicit false

namespace ScriptTutor

/-! ### Well nested programs -/

/-- A program has complete blocks, properly nested, with one second arm at most; no opcode of
conditionals stands outside. -/
inductive WellNested : List Value → Prop
  | nil : WellNested []
  | plain {v : Value} {p : List Value} (hv : v.flow? = none) (hp : WellNested p) :
      WellNested (v :: p)
  | block {expected : Bool} {i e : Value} {a p : List Value}
      (hi : i.flow? = some (.opening expected)) (ha : WellNested a) (he : e.flow? = some .close)
      (hp : WellNested p) : WellNested (i :: (a ++ e :: p))
  | blockElse {expected : Bool} {i o e : Value} {a b p : List Value}
      (hi : i.flow? = some (.opening expected)) (ha : WellNested a)
      (ho : o.flow? = some .otherwise) (hb : WellNested b) (he : e.flow? = some .close)
      (hp : WellNested p) : WellNested (i :: (a ++ o :: (b ++ e :: p)))

/-- Well nested programs may be put one after the other. -/
theorem WellNested.append {p q : List Value} (hp : WellNested p) (hq : WellNested q) :
    WellNested (p ++ q) := by
  induction hp with
  | nil => exact hq
  | plain hv _ ih => exact .plain hv ih
  | block hi ha he _ _ ih =>
      rw [List.cons_append, List.append_assoc, List.cons_append]
      exact .block hi ha he ih
  | blockElse hi ha ho hb he _ _ _ ih =>
      rw [List.cons_append, List.append_assoc, List.cons_append, List.append_assoc,
        List.cons_append]
      exact .blockElse hi ha ho hb he ih

namespace Machine

/-! ### The opcodes of conditionals -/

theorem obey_opening (expected : Bool) (m : Machine) :
    obey (.opcode (Flow.opening expected).name) m =
      openBranch expected (Flow.opening expected).name m := by
  rw [obey_flow]
  cases expected <;> rfl

theorem obey_opening_of_skipped {m : Machine} (h : m.executing = false) (expected : Bool) :
    obey (.opcode (Flow.opening expected).name) m =
      (.ok (), m.withBranches (m.branches.enter false)) := by
  rw [obey_opening, openBranch, h]
  rfl

/-- An opening opcode fails for lack of an item, or opens one and the same branch on top of whatever
is open. -/
theorem obey_opening_cases (expected : Bool) (s : Stacks) (active : Bool) :
    (∃ f, ∀ bs : Branches, bs.executing = active →
      obey (.opcode (Flow.opening expected).name) ⟨s, bs⟩ = (.error (.failure f), ⟨s, bs⟩)) ∨
    ∃ (s' : Stacks) (c : Bool), ∀ bs : Branches, bs.executing = active →
      obey (.opcode (Flow.opening expected).name) ⟨s, bs⟩ = (.ok (), ⟨s', bs.enter c⟩) := by
  cases active with
  | false =>
      refine .inr ⟨s, false, ?_⟩
      intro bs hbs
      rw [obey_opening_of_skipped (m := ⟨s, bs⟩) hbs]
      rfl
  | true =>
      cases hm : s.main with
      | nil =>
          refine .inl ⟨.underflow 1 0 (Flow.opening expected).name, ?_⟩
          intro bs hbs
          rw [obey_opening, openBranch, executing, if_pos hbs, hm]
      | cons x rest =>
          refine .inr ⟨{ s with main := rest }, x.isTrue == expected, ?_⟩
          intro bs hbs
          rw [obey_opening, openBranch, executing, if_pos hbs, hm]

theorem exists_enter_of_opening {expected : Bool} {m m' : Machine}
    (h : obey (.opcode (Flow.opening expected).name) m = (.ok (), m')) :
    ∃ c, m'.branches = m.branches.enter c := by
  obtain ⟨f, hf⟩ | ⟨s, c, hs⟩ := obey_opening_cases expected m.toStacks m.executing
  · cases h.symm.trans (hf m.branches rfl)
  · cases h.symm.trans (hs m.branches rfl)
    exact ⟨c, rfl⟩

/-- The opcode of the second arm switches the innermost branch, if it was not switched before. -/
theorem obey_otherwise {m : Machine} {f : Frame} {bs : Branches} (hm : m.branches = f :: bs)
    (hf : f.elseSeen = false) :
    obey (.opcode Flow.otherwise.name) m =
      (.ok (), m.withBranches (⟨!f.condition, f.enclosingActive, true⟩ :: bs)) := by
  rw [obey_flow, flow, hm, Branches.switch, hf]
  rfl

theorem obey_close {m : Machine} {f : Frame} {bs : Branches} (hm : m.branches = f :: bs) :
    obey (.opcode Flow.close.name) m = (.ok (), m.withBranches bs) := by
  rw [obey_flow, flow, hm]
  rfl

/-! ### Runs with the same trace -/

/-- Two runs take the same steps, end in the same way, and end on the same stacks. -/
structure Run.SameTrace (r s : Run) : Prop where
  steps : r.steps = s.steps
  ending : r.ending = s.ending
  toStacks_eq : r.machine.toStacks = s.machine.toStacks

namespace Run.SameTrace

/-- Runs of one program have the same trace if its first part has and the rest has, as far as it is
reached. -/
theorem append {p q : List Value} {m n : Machine} (hp : (run p m).SameTrace (run p n))
    (hq : ∀ m' n', Passes p m m' → Passes p n n' → (run q m').SameTrace (run q n')) :
    (run (p ++ q) m).SameTrace (run (p ++ q) n) := by
  by_cases hm : (run p m).ending = .finished
  · have hn : (run p n).ending = .finished := hp.ending ▸ hm
    obtain ⟨hs, he, ht⟩ := hq _ _ ⟨hm, rfl⟩ ⟨hn, rfl⟩
    rw [run_append_of_finished hm, run_append_of_finished hn]
    exact ⟨by rw [hp.steps, hs], he, ht⟩
  · have hn : (run p n).ending ≠ .finished := hp.ending ▸ hm
    rw [run_append_of_not_finished hm, run_append_of_not_finished hn]
    exact hp

/-- Runs of one program have the same trace if its first instruction does the same to the stacks and
the rest has the same trace, as far as it is reached. -/
theorem cons {v : Value} {i : Instruction} {q : List Value} {m n m' n' : Machine}
    {r : Except Fault Unit} (hv : Instruction.ofValue v = .ok i)
    (hmn : m.toStacks = n.toStacks) (hm : obey i m = (r, m')) (hn : obey i n = (r, n'))
    (hmn' : m'.toStacks = n'.toStacks) (hq : r = .ok () → (run q m').SameTrace (run q n')) :
    (run (v :: q) m).SameTrace (run (v :: q) n) := by
  have hrec : ∀ f, record i m m' f = record i n n' f := by
    intro f
    rw [record, record, hmn, hmn']
  cases r with
  | ok u =>
      obtain ⟨hs, he, ht⟩ := hq rfl
      rw [run_cons_of_ok hv hm, run_cons_of_ok hv hn, hrec]
      exact ⟨congrArg (_ :: ·) hs, he, ht⟩
  | error e =>
      obtain ⟨f, rfl⟩ := obey_failure (i := i) (m := m) (e := e) (by rw [hm])
      rw [run_cons_of_error hv hm, run_cons_of_error hv hn, hrec]
      exact ⟨rfl, rfl, hmn'⟩

end Run.SameTrace

end Machine

/-- A harmless value that names no opcode of conditionals does nothing where it is skipped. -/
theorem Value.IsHarmless.obey_of_skipped {v : Value} (h : v.IsHarmless) (hv : v.flow? = none)
    {m : Machine} (hm : m.executing = false) :
    ∃ i, Instruction.ofValue v = .ok i ∧ Machine.obey i m = (.ok (), m) := by
  obtain ⟨i, hi⟩ := Instruction.ofValue_of_isItem h.1
  refine ⟨i, hi, ?_⟩
  cases i with
  | literal x => rw [Machine.obey_literal, hm]; rfl
  | opcode name =>
      obtain ⟨t, rfl, hname, rfl⟩ := Instruction.ofValue_eq_opcode_iff.1 hi
      obtain ⟨henabled, hreturn⟩ := h.2 t rfl hname
      obtain ⟨d, hd⟩ := Dispatch.exists_resolve_upper_iff.2 henabled
      obtain ⟨o, ho⟩ := Dispatch.opcode_of_resolve hd hv
      obtain ⟨hmem, hdname⟩ := Dispatch.resolve_eq_ok_iff.1 hd
      have halways : o.alwaysRuns = false := by
        cases ha : o.alwaysRuns with
        | false => rfl
        | true =>
            have hruns : d.alwaysRuns = true := by rw [DispatchEntry.alwaysRuns, ho]; exact ha
            have hname := (Dispatch.consistent_of_mem d hmem).name_of_alwaysRuns hruns
            exact absurd (hdname.symm.trans hname) hreturn
      rw [Machine.obey_operation hd ho, Machine.operate_of_skipped (by rw [hm, halways]; rfl)]

namespace WellNested

open Machine

/-! ### Branches are left as they were found -/

/-- **A well nested program that runs through leaves the branches as it found them.** -/
theorem branches_of_passes {p : List Value} (hp : WellNested p) {m m' : Machine}
    (h : Passes p m m') : m'.branches = m.branches := by
  induction hp generalizing m m' with
  | nil => rw [passes_nil_iff.1 h]
  | plain hv _ ih =>
      obtain ⟨i, mid, hi, ho, hrest⟩ := passes_cons_iff.1 h
      have hmid := obey_branches ((Instruction.flow?_of_ofValue hi).trans hv) m
      rw [ho] at hmid
      rw [ih hrest, hmid]
  | block hi _ he _ iha ihp =>
      obtain ⟨_, m₁, hi', ho, hrest⟩ := passes_cons_iff.1 h
      cases (Instruction.ofValue_of_flow? hi).symm.trans hi'
      obtain ⟨c, h₁⟩ := exists_enter_of_opening ho
      obtain ⟨m₂, ha, hrest⟩ := passes_append_iff.1 hrest
      have h₂ := (iha ha).trans h₁
      obtain ⟨_, m₃, he', hc, hrest⟩ := passes_cons_iff.1 hrest
      cases (Instruction.ofValue_of_flow? he).symm.trans he'
      cases (obey_close h₂).symm.trans hc
      have hrest := ihp hrest
      exact hrest
  | blockElse hi _ hel _ he _ iha ihb ihp =>
      obtain ⟨_, m₁, hi', ho, hrest⟩ := passes_cons_iff.1 h
      cases (Instruction.ofValue_of_flow? hi).symm.trans hi'
      obtain ⟨c, h₁⟩ := exists_enter_of_opening ho
      obtain ⟨m₂, ha, hrest⟩ := passes_append_iff.1 hrest
      have h₂ := (iha ha).trans h₁
      obtain ⟨_, m₃, hel', hs, hrest⟩ := passes_cons_iff.1 hrest
      cases (Instruction.ofValue_of_flow? hel).symm.trans hel'
      cases (obey_otherwise h₂ rfl).symm.trans hs
      obtain ⟨m₄, hb, hrest⟩ := passes_append_iff.1 hrest
      have h₄ := ihb hb
      obtain ⟨_, m₅, he', hc, hrest⟩ := passes_cons_iff.1 hrest
      cases (Instruction.ofValue_of_flow? he).symm.trans he'
      cases (obey_close h₄).symm.trans hc
      have hrest := ihp hrest
      exact hrest

/-! ### What was open before does not matter -/

/-- Two runs of an arm have the same trace, whatever is open around it, if what follows the arm has
the same trace. -/
theorem sameTrace_arm {a q : List Value} (ha : WellNested a) {s : Stacks} {bs cs : Branches}
    (hrun : (run a ⟨s, bs⟩).SameTrace (run a ⟨s, cs⟩))
    (hq : ∀ s', (run q ⟨s', bs⟩).SameTrace (run q ⟨s', cs⟩)) :
    (run (a ++ q) ⟨s, bs⟩).SameTrace (run (a ++ q) ⟨s, cs⟩) := by
  refine Run.SameTrace.append hrun ?_
  rintro ⟨s₁, bs₁⟩ ⟨s₂, cs₂⟩ hm hn
  obtain rfl : bs₁ = bs := ha.branches_of_passes hm
  obtain rfl : cs₂ = cs := ha.branches_of_passes hn
  obtain rfl : s₁ = s₂ := by
    have hstacks := hrun.toStacks_eq
    rw [hm.2, hn.2] at hstacks
    exact hstacks
  exact hq s₁

/-- **What was open before does not matter** to a well nested program, apart from whether it is
executed. -/
theorem sameTrace {p : List Value} (hp : WellNested p) {s : Stacks} {bs cs : Branches}
    (h : bs.executing = cs.executing) : (run p ⟨s, bs⟩).SameTrace (run p ⟨s, cs⟩) := by
  induction hp generalizing s bs cs with
  | nil => exact ⟨rfl, rfl, rfl⟩
  | @plain v p hv hp ih =>
      cases hi : Instruction.ofValue v with
      | error e =>
          rw [run_cons_of_fault (step_of_error hi _), run_cons_of_fault (step_of_error hi _)]
          exact ⟨rfl, rfl, rfl⟩
      | ok i =>
          have hflow := (Instruction.flow?_of_ofValue hi).trans hv
          have hbranches := obey_branches hflow ⟨s, cs⟩
          have hbs := obey_withBranches (m := ⟨s, cs⟩) hflow h
          rcases ho : obey i ⟨s, cs⟩ with ⟨r, s', cs'⟩
          rw [ho] at hbranches hbs
          obtain rfl : cs' = cs := hbranches
          exact Run.SameTrace.cons hi rfl hbs ho rfl fun _ => ih h
  | @block expected i e a p hi ha he hp iha ihp =>
      have hi := Instruction.ofValue_of_flow? hi
      have he := Instruction.ofValue_of_flow? he
      obtain ⟨f, hf⟩ | ⟨s', c, hs⟩ := obey_opening_cases expected s cs.executing
      · exact Run.SameTrace.cons hi rfl (hf bs h) (hf cs rfl) rfl (by simp)
      · refine Run.SameTrace.cons hi rfl (hs bs h) (hs cs rfl) rfl fun _ => ?_
        -- the arm runs on top of one new branch, which is active in both runs or in neither
        have hactive : (bs.enter c).executing = (cs.enter c).executing := by
          rw [Branches.executing_enter, Branches.executing_enter, h]
        refine sameTrace_arm ha (iha hactive) fun t => ?_
        exact Run.SameTrace.cons he rfl (obey_close rfl) (obey_close rfl) rfl fun _ => ihp h
  | @blockElse expected i o e a b p hi ha ho hb he hp iha ihb ihp =>
      have hi := Instruction.ofValue_of_flow? hi
      have ho := Instruction.ofValue_of_flow? ho
      have he := Instruction.ofValue_of_flow? he
      obtain ⟨f, hf⟩ | ⟨s', c, hs⟩ := obey_opening_cases expected s cs.executing
      · exact Run.SameTrace.cons hi rfl (hf bs h) (hf cs rfl) rfl (by simp)
      · refine Run.SameTrace.cons hi rfl (hs bs h) (hs cs rfl) rfl fun _ => ?_
        have hactive : (bs.enter c).executing = (cs.enter c).executing := by
          rw [Branches.executing_enter, Branches.executing_enter, h]
        refine sameTrace_arm ha (iha hactive) fun t => ?_
        refine Run.SameTrace.cons ho rfl (obey_otherwise rfl rfl) (obey_otherwise rfl rfl) rfl ?_
        intro _
        -- the second arm is executed under the opposite condition
        have hswitched : Branches.executing (⟨!c, bs.executing, true⟩ :: bs) =
            Branches.executing (⟨!c, cs.executing, true⟩ :: cs) := by
          rw [Branches.executing_cons, Branches.executing_cons, Frame.active, Frame.active, h]
        refine sameTrace_arm hb (ihb hswitched) fun u => ?_
        exact Run.SameTrace.cons he rfl (obey_close rfl) (obey_close rfl) rfl fun _ => ihp h

/-- A well nested program that runs through does so above other branches as well, and leaves the
same stacks. -/
theorem exists_passes {p : List Value} (hp : WellNested p) {m : Machine} {bs : Branches}
    (h : bs.executing = m.executing) (hfin : (run p m).ending = .finished) :
    ∃ s, Passes p (m.withBranches bs) ⟨s, bs⟩ ∧ Passes p m ⟨s, m.branches⟩ := by
  have htrace : (run p (m.withBranches bs)).SameTrace (run p m) := hp.sameTrace h
  have hm : Passes p m (run p m).machine := ⟨hfin, rfl⟩
  have hn : Passes p (m.withBranches bs) (run p (m.withBranches bs)).machine :=
    ⟨htrace.ending.trans hfin, rfl⟩
  have hstacks := htrace.toStacks_eq
  rcases hm' : (run p m).machine with ⟨s, cs⟩
  rcases hn' : (run p (m.withBranches bs)).machine with ⟨t, ds⟩
  rw [hm'] at hm hstacks
  rw [hn'] at hn hstacks
  obtain rfl : t = s := hstacks
  obtain rfl : cs = m.branches := hp.branches_of_passes hm
  obtain rfl : ds = bs := hp.branches_of_passes hn
  exact ⟨t, hn, hm⟩

/-! ### Skipped programs -/

/-- **Skipped as a whole**, a well nested program of harmless values does nothing. -/
theorem passes_of_skipped {p : List Value} (hp : WellNested p) (hsafe : ∀ v ∈ p, v.IsHarmless)
    {m : Machine} (hm : m.executing = false) : Passes p m m := by
  induction hp generalizing m with
  | nil => exact passes_nil_iff.2 rfl
  | @plain v p hv hp ih =>
      rw [List.forall_mem_cons] at hsafe
      obtain ⟨i, hi, ho⟩ := hsafe.1.obey_of_skipped hv hm
      exact passes_cons_iff.2 ⟨i, m, hi, ho, ih hsafe.2 hm⟩
  | @block expected i e a p hi ha he hp iha ihp =>
      simp only [List.forall_mem_cons, List.forall_mem_append] at hsafe
      obtain ⟨-, hsa, -, hsp⟩ := hsafe
      have hfirst : Passes a (m.withBranches (m.branches.enter false)) _ :=
        iha hsa (Bool.and_false _)
      refine passes_cons_iff.2 ⟨_, _, Instruction.ofValue_of_flow? hi,
        obey_opening_of_skipped hm expected, passes_append_iff.2 ⟨_, hfirst, ?_⟩⟩
      exact passes_cons_iff.2 ⟨_, m, Instruction.ofValue_of_flow? he, obey_close rfl, ihp hsp hm⟩
  | @blockElse expected i o e a b p hi ha ho hb he hp iha ihb ihp =>
      simp only [List.forall_mem_cons, List.forall_mem_append] at hsafe
      obtain ⟨-, hsa, -, hsb, -, hsp⟩ := hsafe
      have hfirst : Passes a (m.withBranches (m.branches.enter false)) _ :=
        iha hsa (Bool.and_false _)
      -- the second arm is not executed either, since the place around it is not
      have hsecond :
          Passes b (m.withBranches (⟨true, m.branches.executing, true⟩ :: m.branches)) _ :=
        ihb hsb (by rw [withBranches_executing, Branches.executing_cons, Frame.active]; exact
          Bool.and_eq_false_imp.2 fun h => absurd (hm.symm.trans h) (by simp))
      refine passes_cons_iff.2 ⟨_, _, Instruction.ofValue_of_flow? hi,
        obey_opening_of_skipped hm expected, passes_append_iff.2 ⟨_, hfirst, ?_⟩⟩
      refine passes_cons_iff.2 ⟨_, _, Instruction.ofValue_of_flow? ho, obey_otherwise rfl rfl,
        passes_append_iff.2 ⟨_, hsecond, ?_⟩⟩
      exact passes_cons_iff.2 ⟨_, m, Instruction.ofValue_of_flow? he, obey_close rfl, ihp hsp hm⟩

end WellNested

end ScriptTutor
