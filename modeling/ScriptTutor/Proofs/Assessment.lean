/-
**Assessments that are right.**

Whether a challenge is solved is a matter of the run on a new engine alone: of its success, its
final stack, or the stack after one of its steps.  The assessment reads this off the run on an
engine that may have done anything before, and compares items of any kind.  Here it is shown that it
has a result for every answer to the task, that the challenge counts as solved exactly if it is, and
that nothing else has a say: not the engine, and not what the author of the challenge expected.

Main definitions:

* `ScriptTutor.Task.IsPlain` — the stacks of a task and of an answer consist of items, and the
  position that is asked for, if there is one, is an integer;
* `ScriptTutor.Task.SolvedBy` — **an answer solves a task**;
* `ScriptTutor.Task.bare` — a task without what its author expects or allows;
* `ScriptTutor.Assessment.IsRight` — an assessment is there, and says what holds.

Main results:

* `ScriptTutor.Task.isRight_assess` — **an answer is assessed by whether it solves the task**;
* `ScriptTutor.Challenge.validate_iff` — **the assessment is sound and complete**, on every engine.
-/

import ScriptTutor.Challenge.Assessment
import ScriptTutor.Proofs.Representation.Bytes

set_option relaxedAutoImplicit false
set_option autoImplicit false

namespace ScriptTutor

/-! ### Stacks and quantities -/

theorem Display.values_items (xs : List Item) : values (xs.map .item) = printStack xs := by
  rw [values, List.mapM_map]
  rfl

namespace Value

theorem isBelow_of_count {v : Value} {i : Int} (h : v.count = .ok i) (n : Int) :
    v.isBelow n = .ok (decide (i < n)) := by
  rw [← isBelow_number]
  cases v with
  | item x =>
      cases x with
      | number m =>
          cases h
          rfl
      | flag b =>
          cases h
          rfl
      | text t => cases h
      | bytes bs => cases h
  | _ => cases h

/-- A value equals a truth value if it is this truth value, or a one or a zero in its place. -/
theorem isTruth_iff {v : Value} {b : Bool} :
    v.isTruth b = true ↔ v = .item (.flag b) ∨ v = .item (.number (truth b)) ∨
      ∃ x : Binary64, v = .real x ∧ x.compareTo (truth b) = some .eq := by
  cases v with
  | item x =>
      cases x with
      | number m => simp [isTruth, equals, compareTo, truth]
      | flag c => cases b <;> cases c <;> simp [isTruth, equals, compareTo, truth]
      | text t => simp [isTruth, equals, compareTo]
      | bytes bs => simp [isTruth, equals, compareTo]
  | real x => simp [isTruth, equals, compareTo, truth]
  | _ => simp [isTruth, equals, compareTo]

end Value

/-! ### Positions and answers -/

/-- A value is a list or a tuple of exactly these items. -/
def Value.IsSequenceOf (v : Value) (xs : List Item) : Prop :=
  v = .list (xs.map .item) ∨ v = .tuple (xs.map .item)

theorem Value.items_injective {xs ys : List Item} (h : xs.map item = ys.map item) : xs = ys :=
  List.map_injective_iff.2 (fun _ _ => item.inj) h

/-- A value is a sequence of one list of items at most. -/
theorem Value.IsSequenceOf.unique {v : Value} {xs ys : List Item} (hx : v.IsSequenceOf xs)
    (hy : v.IsSequenceOf ys) : xs = ys := by
  rcases hx with rfl | rfl
  · rcases hy with hy | hy
    · exact items_injective (list.inj hy)
    · cases hy
  · rcases hy with hy | hy
    · cases hy
    · exact items_injective (tuple.inj hy)

theorem Assessment.stepAt_of_count {position : Value} {i : Int} (h : position.count = .ok i)
    (steps : List Step) :
    stepAt position steps = .ok (if 0 ≤ i then steps[i.toNat]? else none) := by
  have hbelow := Value.isBelow_of_count h
  unfold stepAt
  split
  · cases h
  rw [hbelow, hbelow, h]
  by_cases hneg : i < 0
  · simp [hneg, Int.not_le.2 hneg]
  · by_cases hlt : i < steps.length
    · simp [hneg, hlt, Int.not_lt.1 hneg, Except.map]
    · have hnone : steps[i.toNat]? = none := List.getElem?_eq_none (by omega)
      simp [hneg, hlt, hnone]

/-- The step that is asked for, if there is one: its position is a natural number within the
trace. -/
theorem Assessment.exists_stepAt {position : Value}
    (h : position = .absent ∨ ∃ i, position.count = .ok i) (steps : List Step) :
    ∃ step?, stepAt position steps = .ok step? ∧
      ∀ s, step? = some s ↔ ∃ k : Nat, position.count = .ok (k : Int) ∧ steps[k]? = some s := by
  obtain rfl | ⟨i, hi⟩ := h
  · exact ⟨none, rfl, by simp [Value.count]⟩
  · refine ⟨_, stepAt_of_count hi steps, fun s => ?_⟩
    by_cases hnat : 0 ≤ i
    · obtain ⟨k, rfl⟩ := Int.eq_ofNat_of_zero_le hnat
      rw [if_pos hnat, Int.toNat_natCast]
      constructor
      · intro hs
        exact ⟨k, hi, hs⟩
      · rintro ⟨k', hk', hs⟩
        rwa [Int.natCast_inj.1 (Except.ok.inj (hi.symm.trans hk'))]
    · rw [if_neg hnat]
      constructor
      · nofun
      · rintro ⟨k, hk, -⟩
        cases hi.symm.trans hk
        exact absurd (Int.natCast_nonneg k) hnat

/-! ### Tasks and their solutions -/

namespace Task

/-- The stacks of a task and of an answer consist of items, and the position that is asked for, if
there is one, is an integer. -/
def IsPlain : Task → Answer → Prop
  | outcome (some goal) _, _ => ∃ xs : List Item, goal.elements = .ok (xs.map .item)
  | trace _ _ (.stackAfter position) _, .traced answer =>
    (position = .absent ∨ ∃ i, position.count = .ok i) ∧
      ((∃ xs, answer.IsSequenceOf xs) ∨ ∀ vs, answer ≠ .list vs ∧ answer ≠ .tuple vs)
  | _, _ => True

/-- **An answer solves a task**, given the report on its scripts.  Stacks are compared item by item
in their bytes, and a prediction may be a one or a zero in the place of a truth value. -/
def SolvedBy (r : Report) : Task → Answer → Prop
  | unlock _, .unlocking _ => r.success = true
  | outcome none _, .scripts _ _ => r.success = true
  | outcome (some goal) _, .scripts _ _ =>
    r.success = true ∧ ∃ xs : List Item, goal.elements = .ok (xs.map .item) ∧
      xs.map Item.toBytes = r.finalStack.map Item.toBytes
  | trace _ _ .validity _, .traced answer => answer = .item (.flag r.success)
  | trace _ _ (.stackAfter position) _, .traced answer =>
    ∃ (k : Nat) (s : Step) (xs : List Item), position.count = .ok (k : Int) ∧
      r.steps[k]? = some s ∧ answer.IsSequenceOf xs ∧
      xs.map Item.toBytes = s.after.map Item.toBytes
  | predict .., .predicted valid =>
    valid = .item (.flag r.success) ∨ valid = .item (.number (truth r.success)) ∨
      ∃ x : Binary64, valid = .real x ∧ x.compareTo (truth r.success) = some .eq
  | _, _ => False

/-- The task without what its author expects or allows. -/
def bare : Task → Task
  | unlock locking => unlock locking
  | outcome goal _ => outcome goal []
  | trace unlocking locking question _ => trace unlocking locking question .absent
  | predict unlocking locking _ => predict unlocking locking .absent
  | unspecified => unspecified

theorem scripts?_bare (t : Task) (a : Answer) : t.bare.scripts? a = t.scripts? a := by
  cases t <;> cases a <;> rfl

theorem assess_bare (t : Task) (a : Answer) (r : Report) : t.bare.assess a r = t.assess a r := by
  cases t with
  | outcome goal allowed => cases goal <;> cases a <;> rfl
  | trace unlocking locking question expected => cases a <;> rfl
  | predict unlocking locking expected => cases a <;> rfl
  | _ => rfl

end Task

/-! ### Assessments -/

namespace Assessment

/-- The assessment is there, shows the steps of the run, and says of a challenge that it is solved
exactly if it is. -/
def IsRight (r : Report) (solved : Prop) (x : Except Fault Assessment) : Prop :=
  ∃ y, x = .ok y ∧ y.steps = r.steps ∧ (y.solved = true ↔ solved)

variable {r : Report}

theorem isRight_ofGoal {goal : Value} {xs : List Item} (h : goal.elements = .ok (xs.map .item)) :
    IsRight r (r.success = true ∧ xs.map Item.toBytes = r.finalStack.map Item.toBytes)
      (ofGoal goal r) := by
  rw [ofGoal, h]
  cases hr : r.success with
  | false => exact ⟨_, rfl, rfl, by simp [withOutcome]⟩
  | true =>
      simp only [if_true, Value.stacksEqual_items, Display.values_items]
      cases heq : Item.allEqual r.finalStack xs with
      | true =>
          refine ⟨_, rfl, rfl, ?_⟩
          simp [withOutcome, Item.allEqual_iff_toBytes.1 heq]
      | false =>
          obtain ⟨final, hfinal⟩ := Display.exists_printStack r.finalStack
          obtain ⟨expected, hexpected⟩ := Display.exists_printStack xs
          simp only [hfinal, hexpected]
          refine ⟨_, rfl, rfl, ?_⟩
          have hne : ¬ xs.map Item.toBytes = r.finalStack.map Item.toBytes := by
            intro hbytes
            rw [Item.allEqual_iff_toBytes.2 hbytes.symm] at heq
            cases heq
          simp [withOutcome, hne]

theorem showsStack_iff {answer : Value}
    (h : (∃ xs, answer.IsSequenceOf xs) ∨ ∀ vs, answer ≠ .list vs ∧ answer ≠ .tuple vs)
    (ys : List Item) :
    ∃ b, showsStack answer ys = .ok b ∧ (b = true ↔ ∃ xs, answer.IsSequenceOf xs ∧
      xs.map Item.toBytes = ys.map Item.toBytes) := by
  obtain ⟨xs, hxs⟩ | hnone := h
  · refine ⟨Item.allEqual xs ys, ?_, ?_⟩
    · rcases hxs with rfl | rfl <;> exact Value.stacksEqual_items xs ys
    · rw [Item.allEqual_iff_toBytes]
      constructor
      · intro hbytes
        exact ⟨xs, hxs, hbytes⟩
      · rintro ⟨xs', hxs', hbytes⟩
        rwa [hxs.unique hxs']
  · refine ⟨false, ?_, ?_⟩
    · cases answer with
      | list vs => exact absurd rfl (hnone vs).1
      | tuple vs => exact absurd rfl (hnone vs).2
      | _ => rfl
    · simp only [Bool.false_eq_true, false_iff, not_exists, not_and]
      rintro xs (hxs | hxs)
      · exact absurd hxs (hnone _).1
      · exact absurd hxs (hnone _).2

theorem isRight_validity {answer : Value} :
    IsRight r (answer = .item (.flag r.success)) (ofQuestion .validity answer r) := by
  refine ⟨_, rfl, rfl, ?_⟩
  cases answer with
  | item x => cases x <;> simp [withSteps]
  | _ => simp [withSteps]

theorem isRight_ofStack (solved : Bool) (xs : List Item) :
    IsRight r (solved = true) (ofStack solved xs r) := by
  obtain ⟨t, ht⟩ := Display.exists_printStack xs
  rw [ofStack, ht]
  cases solved <;> exact ⟨_, rfl, rfl, Iff.rfl⟩

theorem isRight_stackAfter {position answer : Value}
    (hposition : position = .absent ∨ ∃ i, position.count = .ok i)
    (hanswer : (∃ xs, answer.IsSequenceOf xs) ∨ ∀ vs, answer ≠ .list vs ∧ answer ≠ .tuple vs) :
    IsRight r
      (∃ (k : Nat) (s : Step) (xs : List Item), position.count = .ok (k : Int) ∧
        r.steps[k]? = some s ∧ answer.IsSequenceOf xs ∧
        xs.map Item.toBytes = s.after.map Item.toBytes)
      (ofQuestion (.stackAfter position) answer r) := by
  obtain ⟨step?, hstep, hiff⟩ := exists_stepAt hposition r.steps
  rw [ofQuestion, hstep]
  cases step? with
  | none =>
      refine ⟨_, rfl, rfl, ?_⟩
      simp only [withSteps, Bool.false_eq_true, false_iff]
      rintro ⟨k, s, xs, hk, hs, -⟩
      cases (hiff s).2 ⟨k, hk, hs⟩
  | some s =>
      obtain ⟨b, hb, hshows⟩ := showsStack_iff hanswer s.after
      obtain ⟨y, hy, hsteps, hsolved⟩ := isRight_ofStack (r := r) b s.after
      simp only [hb]
      refine ⟨y, hy, hsteps, ?_⟩
      rw [hsolved, hshows]
      constructor
      · rintro ⟨xs, hxs, hbytes⟩
        obtain ⟨k, hk, hs⟩ := (hiff s).1 rfl
        exact ⟨k, s, xs, hk, hs, hxs, hbytes⟩
      · rintro ⟨k, s', xs, hk, hs, hxs, hbytes⟩
        cases (hiff s').2 ⟨k, hk, hs⟩
        exact ⟨xs, hxs, hbytes⟩

end Assessment

/-- **An answer is assessed by whether it solves the task.** -/
theorem Task.isRight_assess {t : Task} {a : Answer} (ha : (t.scripts? a).isSome = true)
    (hplain : t.IsPlain a) (r : Report) : Assessment.IsRight r (t.SolvedBy r a) (t.assess a r) := by
  cases t with
  | unlock locking =>
      cases a with
      | unlocking script => exact ⟨_, rfl, rfl, Iff.rfl⟩
      | _ => cases ha
  | outcome goal allowed =>
      cases a with
      | scripts unlocking locking =>
          cases goal with
          | none => exact ⟨_, rfl, rfl, Iff.rfl⟩
          | some goal =>
              obtain ⟨xs, hxs⟩ := hplain
              obtain ⟨y, hy, hsteps, hsolved⟩ := Assessment.isRight_ofGoal (r := r) hxs
              refine ⟨y, hy, hsteps, hsolved.trans (and_congr_right fun _ => ?_)⟩
              constructor
              · intro hbytes
                exact ⟨xs, hxs, hbytes⟩
              · rintro ⟨xs', hxs', hbytes⟩
                rw [hxs] at hxs'
                rwa [Value.items_injective (Except.ok.inj hxs')]
      | _ => cases ha
  | trace unlocking locking question expected =>
      cases a with
      | traced answer =>
          cases question with
          | validity => exact Assessment.isRight_validity
          | stackAfter position => exact Assessment.isRight_stackAfter hplain.1 hplain.2
      | _ => cases ha
  | predict unlocking locking expected =>
      cases a with
      | predicted valid => exact ⟨_, rfl, rfl, Value.isTruth_iff⟩
      | _ => cases ha
  | unspecified => cases a <;> cases ha

namespace Challenge

variable {c : Challenge} {a : Answer} {unlocking locking : Value} {us ls : List Value}

/-- An assessment looks at the task without what its author expects or allows, and at no engine. -/
theorem validate_congr {c' : Challenge} (h : c'.task.bare = c.task.bare)
    (hscripts : c.task.scripts? a = some (unlocking, locking)) (hu : unlocking.elements = .ok us)
    (hl : locking.elements = .ok ls) (e : Engine) :
    c'.validate a e =
      (((Engine.executeList (us ++ ls)).1).bind (c.task.assess a),
        (Engine.executeList (us ++ ls)).2) := by
  have hscripts' : c'.task.scripts? a = some (unlocking, locking) := by
    rw [← Task.scripts?_bare, h, Task.scripts?_bare, hscripts]
  have hassess : c'.task.assess a = c.task.assess a := by
    funext r
    rw [← Task.assess_bare, h, Task.assess_bare]
  rw [validate, hscripts', hassess]
  simp only [Engine.executePair, hu, hl]

/-- **The assessment is sound and complete.**  On every engine, an answer to the task of a challenge
gets an assessment that shows the steps of the run on a new engine, and that counts the challenge as
solved exactly if the answer solves it.  Neither the engine nor the presentation of the challenge
nor what its author expects or allows has a say in it. -/
theorem validate_iff (hscripts : c.task.scripts? a = some (unlocking, locking))
    (hu : unlocking.elements = .ok us) (hl : locking.elements = .ok ls)
    (hitems : ∀ v ∈ us ++ ls, v.IsItem) (hplain : c.task.IsPlain a) (e : Engine) :
    ∃ r f x, Engine.fresh.execute (.list (us ++ ls)) = (.ok r, f) ∧ c.validate a e = (.ok x, f) ∧
      x.steps = r.steps ∧ (x.solved = true ↔ c.task.SolvedBy r a) ∧
      ∀ (c' : Challenge) (e' : Engine), c'.task.bare = c.task.bare →
        c'.validate a e' = (.ok x, f) := by
  obtain ⟨r, f, hrun⟩ := Engine.exists_report_of_isItem hitems
  obtain ⟨x, hx, hsteps, hsolved⟩ :=
    Task.isRight_assess (a := a) (by rw [hscripts]; rfl) hplain r
  have hvalidate : ∀ (c' : Challenge) (e' : Engine), c'.task.bare = c.task.bare →
      c'.validate a e' = (.ok x, f) := by
    intro c' e' h
    rw [validate_congr h hscripts hu hl, hrun]
    exact Prod.ext hx rfl
  exact ⟨r, f, x, hrun, hvalidate c e rfl, hsteps, hsolved, hvalidate⟩

/-- On an engine with an item left on it, a byte string and a text are accepted for the two numbers
that a duplication leaves. -/
theorem validate_iff_duplicate :
    let c : Challenge := ⟨"duplicate", "Duplicate", "", .easy, .trace (.list [.item (.number 3)])
      (.tuple [.item (.text "OP_DUP")]) (.stackAfter (.item (.number 1))) .absent⟩
    let a : Answer := .traced (.list [.item (.bytes [3]), .item (.text "0x03")])
    let e : Engine := ⟨⟨⟨[.number 9], []⟩, []⟩, []⟩
    c.task.IsPlain a ∧ ∃ x f, c.validate a e = (.ok x, f) ∧ x.solved = true := by
  intro c a e
  have hplain : c.task.IsPlain a := ⟨.inr ⟨1, rfl⟩, .inl ⟨[.bytes [3], .text "0x03"], .inl rfl⟩⟩
  have hscripts : c.task.scripts? a =
    some (.list [.item (.number 3)], .tuple [.item (.text "OP_DUP")]) := rfl
  obtain ⟨r, f, x, hrun, hvalidate, -, hsolved, -⟩ := validate_iff hscripts (Value.elements_list _)
    (Value.elements_tuple _) (by simp [Value.IsItem, Value.toItem]) hplain e
  have hafter : (Engine.fresh.execute (.list ([.item (.number 3)] ++
      [.item (.text "OP_DUP")]))).1.toOption.map (fun r => r.steps.map (·.after)) =
        some [[.number 3], [.number 3, .number 3]] := by decide +kernel
  rw [hrun] at hafter
  have hsteps : (r.steps.map (·.after))[1]? = some [.number 3, .number 3] :=
    congrArg (·[1]?) (Option.some.inj hafter)
  rw [List.getElem?_map, Option.map_eq_some_iff] at hsteps
  obtain ⟨s, hs, hstack⟩ := hsteps
  refine ⟨hplain, x, f, hvalidate, hsolved.2
    ⟨1, s, [.bytes [3], .text "0x03"], rfl, hs, .inl rfl, ?_⟩⟩
  rw [hstack]
  decide +kernel

end Challenge

end ScriptTutor
