/-
**The skeleton of a program.**

Which branches are open is decided by the names of the opcodes alone: the items on the stacks decide
what is executed, but not how deep a program stands, nor in which arm.  A scanner that reads nothing
but the names of the opcodes of conditionals therefore keeps up with the machine, and knows
beforehand where a second arm or an end fails.  A program that runs through and closes all its
branches is well nested, because the scanner found nothing to refuse in it.

Main definitions:

* `ScriptTutor.Skeleton` — open branches, as far as names decide them;
* `ScriptTutor.Skeleton.scan` — the skeleton that the names of a program leave;
* `ScriptTutor.Skeleton.refusal?` — the failure that a skeleton makes certain;
* `ScriptTutor.Skeleton.Closes` — what is left of a well nested program where branches are open;
* `ScriptTutor.Step.Follows` — a step of an opcode of conditionals fails where the skeleton says;
* `ScriptTutor.Report.FollowsNames` — a report has the shape of the names.

Main results:

* `ScriptTutor.Machine.obey_skeleton` — **an instruction that succeeds** is not refused by the
  skeleton, and changes it by its name;
* `ScriptTutor.Machine.Passes.skeleton` — **a program that runs through** leaves the skeleton that
  its names leave;
* `ScriptTutor.Skeleton.closes_of_passes` — and it closes what was open, if nothing is open at its
  end;
* `ScriptTutor.Machine.Passes.isHarmless_of_mem` — its opcodes run, and do not give the script up,
  wherever they stand;
* `ScriptTutor.Engine.execute_skeleton` — **the shape of an execution** is that of the names.
-/

import ScriptTutor.Proofs.Nesting.Basic
import ScriptTutor.Proofs.Trace

set_option relaxedAutoImplicit false
set_option autoImplicit false

namespace ScriptTutor

/-! ### Skeletons -/

/-- Open branches, innermost first: for each of them, whether its second arm has begun. -/
abbrev Skeleton := List Bool

/-- The skeleton of the branches that are open. -/
def Branches.skeleton (bs : Branches) : Skeleton := bs.map Frame.elseSeen

namespace Skeleton

/-- What a name makes of a skeleton.  A second arm or an end without a branch changes nothing. -/
def next (k : Skeleton) : Option Flow → Skeleton
  | none => k
  | some .onTrue => false :: k
  | some .onFalse => false :: k
  | some .otherwise => k.modifyHead fun _ => true
  | some .close => k.tail

/-- The skeleton that the names of a program leave. -/
def scan (p : List Value) (k : Skeleton) : Skeleton := p.foldl (fun k v => k.next v.flow?) k

/-- The failure of an opcode of conditionals that a skeleton makes certain. -/
def refusal? (k : Skeleton) (f : Flow) : Option Failure :=
  match f, k with
  | .otherwise, [] => some .elseWithoutIf
  | .otherwise, true :: _ => some .secondElse
  | .close, [] => some .endifWithoutIf
  | _, _ => none

@[simp] theorem scan_nil (k : Skeleton) : scan [] k = k := rfl

@[simp] theorem scan_cons (v : Value) (p : List Value) (k : Skeleton) :
    scan (v :: p) k = scan p (k.next v.flow?) := rfl

@[simp] theorem next_opening (k : Skeleton) (expected : Bool) :
    k.next (some (.opening expected)) = false :: k := by
  cases expected <;> rfl

@[simp] theorem refusal?_opening (k : Skeleton) (expected : Bool) :
    k.refusal? (.opening expected) = none := by
  cases expected <;> cases k <;> rfl

theorem refusal?_otherwise_eq_none_iff {k : Skeleton} :
    k.refusal? .otherwise = none ↔ k.head? = some false := by
  cases k with
  | nil => simp [refusal?]
  | cons second k => cases second <;> simp [refusal?]

theorem refusal?_close_eq_none_iff {k : Skeleton} : k.refusal? .close = none ↔ k ≠ [] := by
  cases k <;> simp [refusal?]

end Skeleton

namespace Machine

/-! ### The machine keeps up with the scanner -/

/-- A beginning fails only for want of an item, where it is executed. -/
theorem failure?_obey_opening (expected : Bool) (m : Machine) :
    failure? (obey (.opcode (Flow.opening expected).name) m).1 =
      if m.executing = true ∧ m.main = [] then
        some (.underflow 1 0 (Flow.opening expected).name)
      else none := by
  rw [obey_opening, openBranch]
  cases m.executing <;> cases m.main <;> rfl

/-- A second arm fails exactly where the skeleton refuses it. -/
theorem failure?_obey_otherwise (m : Machine) :
    failure? (obey (.opcode Flow.otherwise.name) m).1 =
      m.branches.skeleton.refusal? .otherwise := by
  obtain ⟨s, bs⟩ := m
  rw [obey_flow]
  cases bs with
  | nil => rfl
  | cons f bs =>
      obtain ⟨condition, enclosingActive, elseSeen⟩ := f
      cases elseSeen <;> rfl

/-- An end fails exactly where the skeleton refuses it. -/
theorem failure?_obey_close (m : Machine) :
    failure? (obey (.opcode Flow.close.name) m).1 = m.branches.skeleton.refusal? .close := by
  obtain ⟨s, bs⟩ := m
  rw [obey_flow]
  cases bs <;> rfl

theorem obey_flow_skeleton {f : Flow} {m m' : Machine}
    (h : obey (.opcode f.name) m = (.ok (), m')) :
    m.branches.skeleton.refusal? f = none ∧
      m'.branches.skeleton = m.branches.skeleton.next (some f) := by
  have hfailure : failure? (obey (.opcode f.name) m).1 = none := by
    rw [h]
    rfl
  obtain ⟨expected, rfl⟩ | rfl | rfl := f.cases_opening
  · rw [Skeleton.refusal?_opening, Skeleton.next_opening]
    obtain ⟨c, hc⟩ := exists_enter_of_opening h
    rw [hc]
    exact ⟨rfl, rfl⟩
  -- where the skeleton refuses nothing, there is a branch to switch or to close
  · rw [failure?_obey_otherwise] at hfailure
    refine ⟨hfailure, ?_⟩
    have hfirst := Skeleton.refusal?_otherwise_eq_none_iff.1 hfailure
    cases hm : m.branches with
    | nil =>
        rw [hm] at hfirst
        cases hfirst
    | cons frame bs =>
        rw [hm] at hfirst
        cases h.symm.trans (obey_otherwise hm (Option.some.inj hfirst))
        rfl
  · rw [failure?_obey_close] at hfailure
    refine ⟨hfailure, ?_⟩
    cases hm : m.branches with
    | nil =>
        rw [hm] at hfailure
        cases hfailure
    | cons frame bs =>
        cases h.symm.trans (obey_close hm)
        rfl

/-- **An instruction that succeeds** is not refused by the skeleton, and changes it by its name. -/
theorem obey_skeleton {v : Value} {i : Instruction} {m m' : Machine}
    (hv : Instruction.ofValue v = .ok i) (h : obey i m = (.ok (), m')) :
    (∀ f, v.flow? = some f → m.branches.skeleton.refusal? f = none) ∧
      m'.branches.skeleton = m.branches.skeleton.next v.flow? := by
  cases hflow : v.flow? with
  | none =>
      have hbranches := obey_branches ((Instruction.flow?_of_ofValue hv).trans hflow) m
      rw [h] at hbranches
      exact ⟨nofun, congrArg Branches.skeleton hbranches⟩
  | some f =>
      cases (Instruction.ofValue_of_flow? hflow).symm.trans hv
      obtain ⟨hrefusal, hnext⟩ := obey_flow_skeleton h
      refine ⟨?_, hnext⟩
      rintro _ ⟨⟩
      exact hrefusal

/-- **A program that runs through** leaves the skeleton that its names leave. -/
theorem Passes.skeleton {p : List Value} {m m' : Machine} (h : Passes p m m') :
    m'.branches.skeleton = Skeleton.scan p m.branches.skeleton := by
  induction p, m, h using Passes.induction with
  | nil => rfl
  | cons v p m i mid h hi ho hp ih => rw [ih, Skeleton.scan_cons, (obey_skeleton hi ho).2]

/-! ### Names that must not stand anywhere -/

theorem exists_resolve_of_obey {name : Text} {m m' : Machine}
    (h : obey (.opcode name) m = (.ok (), m')) : ∃ d, Dispatch.resolve name = .ok d := by
  cases hd : Dispatch.resolve name with
  | error f =>
      rw [obey, perform_eq, hd] at h
      cases h
  | ok d => exact ⟨d, rfl⟩

/-- Giving the script up never succeeds: it is not skipped, and it fails on any stack. -/
theorem obey_return_ne_ok (m m' : Machine) : obey (.opcode "OP_RETURN") m ≠ (.ok (), m') := by
  intro h
  obtain ⟨d, hd⟩ := exists_resolve_of_obey h
  obtain ⟨hmem, hname⟩ := Dispatch.resolve_eq_ok_iff.1 hd
  rw [obey_operation hd ((Dispatch.consistent_of_mem d hmem).opcode_of_return hname)] at h
  obtain hskip | ⟨hruns, hlt⟩ | ⟨hruns, hle⟩ := operate_cases d .abandon m
  · cases (Bool.or_true m.executing).symm.trans hskip
  · cases h.symm.trans (operate_of_lt hruns hlt)
  · cases h.symm.trans (operate_of_le hruns hle)

/-- An instruction that succeeds is harmless where it is skipped. -/
theorem isHarmless_of_obey {v : Value} {i : Instruction} {m m' : Machine}
    (hv : Instruction.ofValue v = .ok i) (h : obey i m = (.ok (), m')) : v.IsHarmless := by
  refine ⟨Instruction.isItem_of_ofValue hv, ?_⟩
  rintro t rfl hname
  cases (Instruction.ofValue_eq_opcode_iff.2 ⟨t, rfl, hname, rfl⟩).symm.trans hv
  refine ⟨Dispatch.exists_resolve_upper_iff.1 (exists_resolve_of_obey h), ?_⟩
  intro hreturn
  rw [hreturn] at h
  exact obey_return_ne_ok m m' h

/-- Every value of a program that runs through is harmless. -/
theorem Passes.isHarmless_of_mem {p : List Value} {m m' : Machine} (h : Passes p m m') :
    ∀ v ∈ p, v.IsHarmless := by
  induction p, m, h using Passes.induction with
  | nil => simp
  | cons v p m i mid h hi ho hp ih =>
      exact List.forall_mem_cons.2 ⟨isHarmless_of_obey hi ho, ih⟩

end Machine

/-! ### What is left of a well nested program -/

namespace Skeleton

/-- What is left of a well nested program where these branches are open: it ends one after the
other, and may begin a second arm where there was none before. -/
inductive Closes : Skeleton → List Value → Prop
  | done {p : List Value} (hp : WellNested p) : Closes [] p
  | close {second : Bool} {k : Skeleton} {e : Value} {a p : List Value} (ha : WellNested a)
      (he : e.flow? = some .close) (hp : Closes k p) : Closes (second :: k) (a ++ e :: p)
  | otherwise {k : Skeleton} {o : Value} {a p : List Value} (ha : WellNested a)
      (ho : o.flow? = some .otherwise) (hp : Closes (true :: k) p) :
      Closes (false :: k) (a ++ o :: p)

namespace Closes

variable {k : Skeleton} {v : Value} {p : List Value}

theorem append {a : List Value} (ha : WellNested a) (hp : Closes k p) : Closes k (a ++ p) := by
  cases hp with
  | done hp => exact .done (ha.append hp)
  | close hb he hp =>
      rw [← List.append_assoc]
      exact .close (ha.append hb) he hp
  | otherwise hb ho hp =>
      rw [← List.append_assoc]
      exact .otherwise (ha.append hb) ho hp

theorem cons_opening {expected : Bool} (hv : v.flow? = some (.opening expected))
    (hp : Closes (false :: k) p) : Closes k (v :: p) := by
  cases hp with
  | @close _ _ e a q ha he hq =>
      have hblock : WellNested (v :: (a ++ [e])) := .block hv ha he .nil
      have hall := append hblock hq
      simpa using hall
  | @otherwise _ o a q ha ho hq =>
      -- the second arm has begun, so that only its end is left
      cases hq with
      | @close _ _ e b r hb he hr =>
          have hblock : WellNested (v :: (a ++ o :: (b ++ [e]))) := .blockElse hv ha ho hb he .nil
          have hall := append hblock hr
          simpa using hall

theorem cons (hv : ∀ f, v.flow? = some f → k.refusal? f = none) (hp : Closes (k.next v.flow?) p) :
    Closes k (v :: p) := by
  cases hflow : v.flow? with
  | none =>
      rw [hflow] at hp
      exact append (a := [v]) (.plain hflow .nil) hp
  | some f =>
      rw [hflow] at hp
      have hrefusal := hv f hflow
      obtain ⟨expected, rfl⟩ | rfl | rfl := f.cases_opening
      · rw [next_opening] at hp
        exact cons_opening hflow hp
      · obtain ⟨rest, rfl⟩ := List.head?_eq_some_iff.1 (refusal?_otherwise_eq_none_iff.1 hrefusal)
        exact .otherwise (a := []) .nil hflow hp
      · obtain ⟨second, rest, rfl⟩ :=
          List.exists_cons_of_ne_nil (refusal?_close_eq_none_iff.1 hrefusal)
        exact .close (a := []) .nil hflow hp

end Closes

/-- A program that runs through closes what was open, if nothing is open at its end. -/
theorem closes_of_passes {p : List Value} {m m' : Machine} (h : Machine.Passes p m m')
    (hm' : m'.branches = []) : Closes m.branches.skeleton p := by
  induction p, m, h using Machine.Passes.induction with
  | nil =>
      rw [hm']
      exact .done .nil
  | cons v p m i mid h hi ho hp ih =>
      -- the rest closes what the first instruction left open, so together they close what was open
      obtain ⟨hrefusal, hnext⟩ := Machine.obey_skeleton hi ho
      exact .cons hrefusal (hnext ▸ ih)

end Skeleton

/-- A program that runs through from no branch to no branch is well nested. -/
theorem WellNested.of_passes {p : List Value} {m m' : Machine} (h : Machine.Passes p m m')
    (hm : m.branches = []) (hm' : m'.branches = []) : WellNested p := by
  have hcloses := Skeleton.closes_of_passes h hm'
  rw [hm] at hcloses
  cases hcloses with
  | done hp => exact hp

/-! ### Executions -/

theorem Failure.message_fixed (f : Failure) :
    (∃ w ∈ ["Stack underflow: ", "Cannot convert ", "ScriptNum value must be an integer, not ",
      "OP_", "Duplicate ", "Unknown opcode: "], Text.ofString w <+: f.message) ∨
    ∃ w ∈ [" failed: top stack item is false", " is disabled"], Text.ofString w <:+ f.message := by
  cases f with
  | underflow required found operation =>
      refine .inl ⟨"Stack underflow: ", by simp, ?_⟩
      rw [message, underflowText, List.append_assoc, List.append_assoc, List.append_assoc,
        List.append_assoc, List.append_assoc]
      exact List.prefix_append _ _
  | notANumber shown =>
      refine .inl ⟨"Cannot convert ", by simp, ?_⟩
      rw [message, List.append_assoc]
      exact List.prefix_append _ _
  | notAnInteger kind =>
      exact .inl ⟨"ScriptNum value must be an integer, not ", by simp, List.prefix_append _ _⟩
  | unverified operation =>
      exact .inr ⟨" failed: top stack item is false", by simp, List.suffix_append _ _⟩
  | abandoned => exact .inl ⟨"OP_", by simp, by decide +kernel⟩
  | elseWithoutIf => exact .inl ⟨"OP_", by simp, by decide +kernel⟩
  | secondElse => exact .inl ⟨"Duplicate ", by simp, by decide +kernel⟩
  | endifWithoutIf => exact .inl ⟨"OP_", by simp, by decide +kernel⟩
  | disabled name => exact .inr ⟨" is disabled", by simp, List.suffix_append _ _⟩
  | unknown name => exact .inl ⟨"Unknown opcode: ", by simp, List.prefix_append _ _⟩

/-- No failure is worded like the verdict on a branch that was left open. -/
theorem Failure.message_ne_unbalanced (f : Failure) :
    f.message ≠ ("Unbalanced conditional: missing OP_ENDIF" : Text) := by
  intro h
  -- the verdict has none of the fixed beginnings and ends
  have hfixed := f.message_fixed
  rw [h] at hfixed
  revert hfixed
  decide +kernel

/-- A step of an opcode of conditionals, taken by this engine where the names before it left this
skeleton, fails where the skeleton refuses it, or for want of an item where it is executed. -/
structure Step.Follows (s : Step) (k : Skeleton) (e : Engine) (v : Value) : Prop where
  otherwise : v.flow? = some .otherwise → (s.success = false ↔ k = [] ∨ k.head? = some true)
  close : v.flow? = some .close → (s.success = false ↔ k = [])
  opening : ∀ expected, v.flow? = some (.opening expected) →
    (s.success = false ↔ e.executing = true ∧ e.main = [])
  error_opening : ∀ expected, v.flow? = some (.opening expected) → s.success = false →
    s.error = some (Failure.underflow 1 0 (Flow.opening expected).name).message

/-- The report on a program has the shape of the names.  As far as the program runs through, the
open branches are those that its names leave, and the next step follows them. -/
structure Report.FollowsNames (r : Report) (p : List Value) : Prop where
  elseSeen : ∀ q s f, q <+: p → Engine.executeList q = (.ok s, f) →
    (∀ t ∈ s.steps, t.success = true) → f.branches.map Frame.elseSeen = Skeleton.scan q []
  follows : ∀ q v rest s f, p = q ++ v :: rest → Engine.executeList q = (.ok s, f) →
    (∀ t ∈ s.steps, t.success = true) →
      ∃ t, r.steps[q.length]? = some t ∧ t.Follows (Skeleton.scan q []) f v
  error_iff : r.error = some ("Unbalanced conditional: missing OP_ENDIF" : Text) ↔
    (∀ t ∈ r.steps, t.success = true) ∧ Skeleton.scan p [] ≠ []
  wellNested : r.success = true → WellNested p
  isHarmless : r.success = true → ∀ v ∈ p, v.IsHarmless

namespace Engine

/-- The step of an instruction that an engine comes to follows the skeleton of the names before. -/
theorem follows_record {v : Value} {i : Instruction} (hv : Instruction.ofValue v = .ok i)
    (e : Engine) :
    (Machine.record i e.toMachine (Machine.obey i e.toMachine).2
      (Machine.failure? (Machine.obey i e.toMachine).1)).Follows e.branches.skeleton e v := by
  have hname : ∀ f, v.flow? = some f → i = .opcode f.name := by
    intro f hf
    cases (Instruction.ofValue_of_flow? hf).symm.trans hv
    rfl
  refine ⟨?_, ?_, ?_, ?_⟩
  · intro hf
    obtain rfl := hname _ hf
    rw [Machine.failure?_obey_otherwise]
    rcases e.branches.skeleton with _ | ⟨_ | _, k⟩ <;> simp [Machine.record, Skeleton.refusal?]
  · intro hf
    obtain rfl := hname _ hf
    rw [Machine.failure?_obey_close]
    rcases e.branches.skeleton with _ | ⟨second, k⟩ <;> simp [Machine.record, Skeleton.refusal?]
  · intro expected hf
    obtain rfl := hname _ hf
    rw [Machine.failure?_obey_opening]
    split
    · next h => simpa [Machine.record] using h
    · next h => simpa [Machine.record] using h
  · intro expected hf hs
    obtain rfl := hname _ hf
    rw [Machine.failure?_obey_opening] at hs ⊢
    split at hs
    · next h =>
      rw [if_pos h]
      rfl
    · cases hs

/-- The verdict names an open branch exactly if there is one. -/
theorem objection?_eq_unbalanced_iff {m : Machine} :
    objection? m = some ("Unbalanced conditional: missing OP_ENDIF" : Text) ↔
      m.branches ≠ [] := by
  refine ⟨?_, objection?_of_open⟩
  intro h hb
  cases hm : m.main with
  | nil =>
      have hother := (objection?_of_empty hb hm).symm.trans h
      revert hother
      decide +kernel
  | cons x rest =>
      cases hx : x.isTrue with
      | true => cases (objection?_eq_none_iff.2 ⟨hb, x, rest, hm, hx⟩).symm.trans h
      | false =>
          have hother := (objection?_of_false hb (by rw [hm]; rfl) hx).symm.trans h
          revert hother
          decide +kernel

/-- The report names an open branch exactly if nothing failed and the names leave one. -/
theorem error_eq_unbalanced_iff {p : List Value} (hp : ∀ v ∈ p, v.IsItem) {r : Report} {e : Engine}
    (h : executeList p = (.ok r, e)) :
    r.error = some ("Unbalanced conditional: missing OP_ENDIF" : Text) ↔
      (∀ s ∈ r.steps, s.success = true) ∧ Skeleton.scan p [] ≠ [] := by
  obtain hfin | ⟨f, hfail⟩ := Machine.ending_of_isItem hp Machine.start
  · have hpass : Machine.Passes p Machine.start (Machine.run p Machine.start).machine :=
      ⟨hfin, rfl⟩
    have hskeleton : Branches.skeleton (Machine.run p Machine.start).machine.branches =
        Skeleton.scan p [] := hpass.skeleton
    rw [executeList_of_passes hpass] at h
    cases h
    rw [← hskeleton, Branches.skeleton, ne_eq, List.map_eq_nil_iff]
    exact objection?_eq_unbalanced_iff.trans ⟨fun hb => ⟨hpass.success_of_mem, hb⟩, And.right⟩
  · rw [executeList_of_failed hfail] at h
    cases h
    constructor
    · intro herror
      exact absurd (Option.some.inj herror) f.message_ne_unbalanced
    · rintro ⟨hall, -⟩
      exact absurd hfail (Machine.success_of_mem_iff.1 hall _)

/-- **The shape of an execution** is that of the names, whatever the items are: the branches that
are open, the places where a second arm or an end fails, and the verdict on a branch that was left
open.  A program that is a success is therefore well nested, and each of its opcodes runs and does
not give the script up, even where it is skipped. -/
theorem execute_skeleton {p : List Value} (hp : ∀ v ∈ p, v.IsItem) (e : Engine) :
    ∃ r e', e.execute (.list p) = (.ok r, e') ∧ r.FollowsNames p := by
  rw [execute_list]
  obtain ⟨r, e', hr⟩ := exists_report_of_isItem hp
  have hengine : e' = ofRun (Machine.run p Machine.start) := by rw [← executeList_engine, hr]
  refine ⟨r, e', hr, ?_, ?_, error_eq_unbalanced_iff hp hr, ?_, ?_⟩
  · intro q s f _ hs hall
    exact (passes_of_steps hs hall).skeleton
  · rintro q v rest s f rfl hs hall
    have hpass : Machine.Passes q Machine.start f.toMachine := passes_of_steps hs hall
    have hskeleton : f.branches.skeleton = Skeleton.scan q [] := hpass.skeleton
    obtain ⟨i, hi⟩ := Instruction.ofValue_of_isItem (hp v (by simp))
    refine ⟨_, ?_, hskeleton ▸ follows_record hi f⟩
    rw [steps_of_executeList hr, hengine]
    exact hpass.getElem?_steps hi rest
  · intro hs
    obtain ⟨hpass, hobj, -, -⟩ := executeList_success_iff.1 ⟨hr, hs⟩
    exact .of_passes hpass rfl (objection?_eq_none_iff.1 hobj).1
  · intro hs
    obtain ⟨hpass, -⟩ := executeList_success_iff.1 ⟨hr, hs⟩
    exact hpass.isHarmless_of_mem

/-- A conditional in a second arm, after a first arm whose verification is skipped. -/
theorem execute_skeleton_nested :
    ∃ r e', fresh.execute (.list [.item (.flag false), .item (.text "op_if"),
        .item (.text "OP_VERIFY"), .item (.text "OP_ELSE"), .item (.text "7"), .buffer [],
        .item (.text "Op_NotIf"), .item (.text "op_endif"), .item (.text "OP_ENDIF")]) =
        (.ok r, e') ∧
      r.FollowsNames [.item (.flag false), .item (.text "op_if"),
        .item (.text "OP_VERIFY"), .item (.text "OP_ELSE"), .item (.text "7"), .buffer [],
        .item (.text "Op_NotIf"), .item (.text "op_endif"), .item (.text "OP_ENDIF")] ∧
      r.success = true := by
  obtain ⟨r, e', hr, hnames⟩ := execute_skeleton (p := [.item (.flag false), .item (.text "op_if"),
    .item (.text "OP_VERIFY"), .item (.text "OP_ELSE"), .item (.text "7"), .buffer [],
    .item (.text "Op_NotIf"), .item (.text "op_endif"), .item (.text "OP_ENDIF")])
    (by simp [Value.IsItem, Value.toItem]) fresh
  refine ⟨r, e', hr, hnames, ?_⟩
  have hs : (fresh.execute (.list [.item (.flag false), .item (.text "op_if"),
      .item (.text "OP_VERIFY"), .item (.text "OP_ELSE"), .item (.text "7"), .buffer [],
      .item (.text "Op_NotIf"), .item (.text "op_endif"),
      .item (.text "OP_ENDIF")])).1.toOption.map (·.success) = some true := by decide +kernel
  rw [hr] at hs
  exact Option.some.inj hs

end Engine

end ScriptTutor
