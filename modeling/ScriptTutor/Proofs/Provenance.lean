/-
**Where the items on the stacks come from.**

An opcode moves items, computes numbers, and digests items.  It has no way to make a text, a truth
value or any other byte string.  So whatever an execution comes to, the texts and the truth values
on both stacks stand as literals in the part of the program that is done, and so do the byte strings
that are no digest of an item that lay on the stack before.  An opcode that computes or compares
gives a number, even where the answer is a truth.

Main definitions:

* `ScriptTutor.Item.MadeOf` — an item is one of the operands, a number, or a digest of an operand;
* `ScriptTutor.Engine.Source` — an item is a literal of the program, a number, or a digest of an
  item that a step has found on the stack;
* `ScriptTutor.Engine.Authentic` — the texts, truth values and byte strings on both stacks come from
  the program;
* `ScriptTutor.Dispatch.calculations` — the opcodes that compute, compare and measure, with the
  number of items that they take and of numbers that they give;
* `ScriptTutor.Stacks.Calculated` — what such an opcode does to the stacks.

Main results:

* `ScriptTutor.TopOp.ensures_madeOf` — what an opcode puts on the stack **is made of its operands**;
* `ScriptTutor.Machine.holds_of_obey` — an item on the stacks after an instruction was there before,
  is made of the items that were, or is the literal that was pushed;
* `ScriptTutor.Engine.Reached.source` — **every item on the way has a source**;
* `ScriptTutor.Engine.execute_authentic` — **no opcode forges a text, a truth value or bytes**.
-/

import ScriptTutor.Proofs.Obstacle

set_option relaxedAutoImplicit false
set_option autoImplicit false

namespace ScriptTutor

/-! ### Opcodes that give numbers -/

namespace Replacement

/-- What takes the place of the operands, if anything does, are so many numbers. -/
def IsNumbers (given : Nat) (x : Replacement) : Prop :=
  ∀ items, x = .ok items → ∃ ns : List Int, ns.length = given ∧ items = ns.map .number

theorem isNumbers_error {given : Nat} (f : Failure) : IsNumbers given (.error f) := nofun

theorem isNumbers_nil : IsNumbers 0 (.ok []) := by
  rintro _ ⟨⟩
  exact ⟨[], rfl, rfl⟩

theorem isNumbers_one (n : Int) : IsNumbers 1 (.ok [.number n]) := by
  rintro _ ⟨⟩
  exact ⟨[n], rfl, rfl⟩

end Replacement

namespace TopOp

/-- The number of items that an opcode takes for a calculation, and of numbers that it gives; an
item that is measured is not taken. -/
def calculation? : TopOp → Option (Nat × Nat)
  | size => some (0, 1)
  | equal => some (2, 1)
  | equalVerify => some (2, 0)
  | unary _ => some (1, 1)
  | binary _ => some (2, 1)
  | numEqualVerify => some (2, 0)
  | within => some (3, 1)
  | checkSig => some (2, 1)
  | checkSigVerify => some (2, 0)
  | _ => none

theorem isNumbers_verified (b : Bool) (operation : Text) : (verified b operation).IsNumbers 0 := by
  cases b with
  | true => exact Replacement.isNumbers_nil
  | false => exact Replacement.isNumbers_error _

theorem isNumbers_onNumber (f : Int → Int) (a : Item) : (onNumber f a).IsNumbers 1 := by
  rw [onNumber]
  split
  · exact Replacement.isNumbers_one _
  · exact Replacement.isNumbers_error _

theorem isNumbers_onNumbers (f : Int → Int → Int) (a b : Item) :
    (onNumbers f a b).IsNumbers 1 := by
  rw [onNumbers]
  split
  · exact Replacement.isNumbers_one _
  · exact Replacement.isNumbers_error _

theorem ensures_isNumbers {r : TopOp} {taken given : Nat}
    (h : r.calculation? = some (taken, given)) (hr : r ≠ .size) :
    r.rule.arity = taken ∧ r.rule.Ensures fun _ => Replacement.IsNumbers given := by
  cases r with
  | size => exact absurd rfl hr
  | equal =>
      cases h
      exact ⟨rfl, fun a b => Replacement.isNumbers_one _⟩
  | equalVerify =>
      cases h
      exact ⟨rfl, fun a b => isNumbers_verified _ _⟩
  | unary f =>
      cases h
      exact ⟨rfl, fun a => isNumbers_onNumber _ _⟩
  | binary f =>
      cases h
      exact ⟨rfl, fun a b => isNumbers_onNumbers _ _ _⟩
  | numEqualVerify =>
      cases h
      refine ⟨rfl, fun a b => ?_⟩
      dsimp only
      split
      · exact isNumbers_verified _ _
      · exact Replacement.isNumbers_error _
  | within =>
      cases h
      refine ⟨rfl, fun a b c => ?_⟩
      dsimp only
      split
      · exact Replacement.isNumbers_error _
      · split
        · exact Replacement.isNumbers_error _
        · exact Replacement.isNumbers_one _
  | checkSig =>
      cases h
      exact ⟨rfl, fun a b => Replacement.isNumbers_one _⟩
  | checkSigVerify =>
      cases h
      exact ⟨rfl, fun a b => Replacement.isNumbers_nil⟩
  | _ => cases h

end TopOp

/-! ### What opcodes make of their operands -/

/-- The item is one of the operands, a number, or a digest of an operand. -/
inductive Item.MadeOf (operands : List Item) : Item → Prop
  | moved {x : Item} (h : x ∈ operands) : MadeOf operands x
  | computed (n : Int) : MadeOf operands (.number n)
  | digested (a : Digest.Algorithm) {x : Item} (h : x ∈ operands) :
      MadeOf operands (.bytes (a.digest x.toBytes))

theorem Item.MadeOf.mono {xs ys : List Item} {y : Item} (h : y.MadeOf xs) (hsub : xs ⊆ ys) :
    y.MadeOf ys := by
  cases h with
  | moved h => exact .moved (hsub h)
  | computed n => exact .computed n
  | digested a h => exact .digested a (hsub h)

namespace Replacement

/-- What takes the place of the operands, if anything does, is made of them. -/
def MadeOf (operands : List Item) (x : Replacement) : Prop :=
  ∀ items, x = .ok items → ∀ y ∈ items, y.MadeOf operands

variable {operands : List Item}

theorem madeOf_of_subset {items : List Item} (h : items ⊆ operands) :
    MadeOf operands (.ok items) := by
  rintro _ ⟨⟩ y hy
  exact .moved (h hy)

theorem IsNumbers.madeOf {given : Nat} {x : Replacement} (h : x.IsNumbers given) :
    x.MadeOf operands := by
  intro items hx y hy
  obtain ⟨ns, -, rfl⟩ := h items hx
  obtain ⟨n, -, rfl⟩ := List.mem_map.1 hy
  exact .computed n

end Replacement

namespace TopOp

theorem ensures_madeOf_of_calculation {r : TopOp} {taken given : Nat}
    (h : r.calculation? = some (taken, given)) (hr : r ≠ .size) :
    r.rule.Ensures Replacement.MadeOf :=
  (ensures_isNumbers h hr).2.mono fun _ _ hx => hx.madeOf

/-- What an opcode puts on the stack **is made of its operands**. -/
theorem ensures_madeOf (r : TopOp) : r.rule.Ensures Replacement.MadeOf := by
  cases r with
  | push n => exact (Replacement.isNumbers_one n).madeOf
  | ifDup =>
      intro a
      refine Replacement.madeOf_of_subset ?_
      split <;> simp
  | size =>
      rintro a _ ⟨⟩ y hy
      obtain rfl | hy := List.mem_cons.1 hy
      · exact .computed _
      · exact .moved hy
  | verify => exact fun a => (isNumbers_verified _ _).madeOf
  | hash a =>
      rintro x _ ⟨⟩ y hy
      rw [List.mem_singleton.1 hy]
      exact .digested a List.mem_cons_self
  | equal => exact ensures_madeOf_of_calculation rfl nofun
  | equalVerify => exact ensures_madeOf_of_calculation rfl nofun
  | unary f => exact ensures_madeOf_of_calculation rfl nofun
  | binary f => exact ensures_madeOf_of_calculation rfl nofun
  | numEqualVerify => exact ensures_madeOf_of_calculation rfl nofun
  | within => exact ensures_madeOf_of_calculation rfl nofun
  | checkSig => exact ensures_madeOf_of_calculation rfl nofun
  | _ =>
      -- all others move their operands
      simp only [rule, Rule.Ensures]
      intros
      exact Replacement.madeOf_of_subset (by simp)

end TopOp

/-! ### Where an instruction takes items from -/

/-- The item lies on one of the two stacks. -/
def Stacks.Holds (s : Stacks) (y : Item) : Prop := y ∈ s.main ∨ y ∈ s.alt

/-- An item on the stacks after an operation was there before, or is made of the items on the main
stack. -/
theorem Operation.holds_of_run {o : Operation} {s : Stacks} {y : Item}
    (h : (o.run s).2.Holds y) : s.Holds y ∨ y.MadeOf s.main := by
  cases o with
  | onTop r =>
      cases hres : r.rule.result? s.main with
      | none =>
          simp only [run, hres] at h
          exact .inl h
      | some q =>
          obtain ⟨x, rest⟩ := q
          have hmade := (TopOp.ensures_madeOf r).of_result? hres
          have hrest : rest ⊆ s.main := Rule.eq_drop_of_result? hres ▸ List.drop_subset _ _
          cases x with
          | ok items =>
              simp only [run, hres, Stacks.Holds, List.mem_append] at h
              rcases h with (h | h) | h
              · exact .inr ((hmade items rfl y h).mono (List.take_subset _ _))
              · exact .inl (.inl (hrest h))
              · exact .inl (.inr h)
          | error f =>
              simp only [run, hres] at h
              exact .inl (h.imp_left (hrest ·))
  | toAlt =>
      rcases s with ⟨_ | ⟨x, rest⟩, alt⟩
      · exact .inl h
      · simp only [run, Stacks.Holds, List.mem_cons] at h
        rcases h with h | rfl | h
        · exact .inl (.inl (List.mem_cons_of_mem x h))
        · exact .inl (.inl List.mem_cons_self)
        · exact .inl (.inr h)
  | fromAlt =>
      rcases s with ⟨main, _ | ⟨x, rest⟩⟩
      · exact .inl h
      · simp only [run, Stacks.Holds, List.mem_cons] at h
        rcases h with (rfl | h) | h
        · exact .inl (.inr List.mem_cons_self)
        · exact .inl (.inl h)
        · exact .inl (.inr (List.mem_cons_of_mem x h))
  | depth =>
      simp only [run, Stacks.Holds, List.mem_cons] at h
      rcases h with (rfl | h) | h
      · exact .inr (.computed _)
      · exact .inl (.inl h)
      · exact .inl (.inr h)
  | abandon => exact .inl h

namespace Machine

/-- An opcode of conditionals puts nothing on the stacks. -/
theorem holds_of_flow {name : Text} {m : Machine} {f : Flow} {y : Item}
    (h : (flow name m f).2.Holds y) : m.Holds y := by
  have hset : ∀ bs : Except Failure Branches, (setBranches bs m).2.Holds y → m.Holds y := by
    intro bs h
    cases bs <;> exact h
  have hopen : ∀ expected, (openBranch expected name m).2.Holds y → m.Holds y := by
    intro expected h
    rw [openBranch] at h
    split at h
    · split at h
      · next x rest hmain =>
        refine h.imp_left fun hy => ?_
        rw [hmain]
        exact List.mem_cons_of_mem x hy
      · exact h
    · exact h
  cases f with
  | onTrue => exact hopen true h
  | onFalse => exact hopen false h
  | otherwise => exact hset _ h
  | close => exact hset _ h

/-- An item on the stacks after an instruction was there before, is made of the items that were on
the main stack, or is the literal that was pushed. -/
theorem holds_of_obey {i : Instruction} {m : Machine} {y : Item} (h : (obey i m).2.Holds y) :
    m.Holds y ∨ y.MadeOf m.main ∨ i = .literal y := by
  cases i with
  | literal x =>
      rw [obey_literal] at h
      split at h
      · rcases h with h | h
        · obtain rfl | h := List.mem_cons.1 h
          · exact .inr (.inr rfl)
          · exact .inl (.inl h)
        · exact .inl (.inr h)
      · exact .inl h
  | opcode name =>
      obtain ⟨f, hf⟩ | ⟨f, -, hf⟩ | ⟨d, o, -, -, hf⟩ := obey_opcode_cases name
      · rw [hf] at h
        exact .inl h
      · rw [hf] at h
        exact .inl (holds_of_flow h)
      · rw [hf] at h
        obtain hskip | ⟨hruns, hlt⟩ | ⟨hruns, hle⟩ := operate_cases d o m
        · rw [operate_of_skipped hskip] at h
          exact .inl h
        · rw [operate_of_lt hruns hlt] at h
          exact .inl h
        · rw [operate_of_le hruns hle] at h
          exact (Operation.holds_of_run h).imp_right .inl

end Machine

/-! ### Sources -/

/-- Only byte strings are items in more than one way. -/
theorem Value.eq_item_of_toItem {v : Value} {x : Item} (h : v.toItem = .ok x)
    (hx : ∀ bs, x ≠ .bytes bs) : v = .item x := by
  cases v with
  | item y =>
      cases h
      rfl
  | buffer bs =>
      cases h
      exact absurd rfl (hx bs)
  | view bs =>
      cases h
      exact absurd rfl (hx bs)
  | _ => cases h

namespace Engine

/-- The item is a literal of the program for which there is a step, a number, or the digest of an
item that a step has found on the main stack. -/
inductive Source (p : List Value) (steps : List Step) : Item → Prop
  | literal {k : Nat} {v : Value} {x : Item} (hk : k < steps.length) (hv : p[k]? = some v)
      (hx : v.toItem = .ok x) (hname : v.isOpcodeName = false) : Source p steps x
  | number (n : Int) : Source p steps (.number n)
  | digest (a : Digest.Algorithm) {s : Step} {x : Item} (hs : s ∈ steps) (hx : x ∈ s.before) :
      Source p steps (.bytes (a.digest x.toBytes))

theorem Source.concat {p : List Value} {steps : List Step} {y : Item} (h : Source p steps y)
    (s : Step) : Source p (steps ++ [s]) y := by
  cases h with
  | literal hk hv hx hname =>
      refine .literal ?_ hv hx hname
      rw [List.length_append]
      exact Nat.lt_add_right _ hk
  | number n => exact .number n
  | digest a hs hx => exact .digest a (List.mem_append_left _ hs) hx

/-- **Every item on the way has a source.** -/
theorem Reached.source {p : List Value} {e : Engine} (h : Reached p e) {y : Item}
    (hy : e.Holds y) : Source p e.steps y := by
  induction h generalizing y with
  | start => rcases hy with hy | hy <;> cases hy
  | @next e e' v s h hall hv hs ih =>
      obtain ⟨i, hi⟩ : ∃ i, Instruction.ofValue v = .ok i := by
        cases hi : Instruction.ofValue v with
        | ok i => exact ⟨i, rfl⟩
        | error fault => cases (e.step_of_error hi).symm.trans hs
      cases (e.step_of_ok hi).symm.trans hs
      obtain hold | hmade | rfl := Machine.holds_of_obey hy
      · exact (ih hold).concat _
      · cases hmade with
        | moved hx => exact (ih (.inl hx)).concat _
        | computed n => exact .number n
        | digested a hx =>
            exact .digest a (List.mem_append_right _ List.mem_cons_self) (List.mem_reverse.2 hx)
      · obtain ⟨hx, hname⟩ := Instruction.ofValue_eq_literal_iff.1 hi
        refine .literal (k := e.steps.length) ?_ hv hx hname
        simp [note]

/-- The texts, truth values and byte strings on both stacks come from the part of the program that
is done: the texts and truth values stand there as literals, and a byte string does so, or is the
digest of an item that has lain on the main stack. -/
structure Authentic (p : List Value) (e : Engine) : Prop where
  text : ∀ t, e.Holds (.text t) →
    ∃ k < e.steps.length, p[k]? = some (.item (.text t)) ∧ t.isOpcodeName = false
  flag : ∀ b, e.Holds (.flag b) → ∃ k < e.steps.length, p[k]? = some (.item (.flag b))
  bytes : ∀ bs, e.Holds (.bytes bs) →
    (∃ k < e.steps.length, ∃ v, p[k]? = some v ∧ v.toItem = .ok (.bytes bs)) ∨
    ∃ a : Digest.Algorithm, ∃ s ∈ e.steps, ∃ x ∈ s.before,
      bs = a.digest x.toBytes ∧ (bs.length = 20 ∨ bs.length = 32)

/-- Whatever an execution comes through is authentic. -/
theorem Reached.authentic {p : List Value} {e : Engine} (h : Reached p e) : e.Authentic p where
  text t ht := by
    cases h.source ht with
    | @literal k v _ hk hv hx hname =>
        obtain rfl := Value.eq_item_of_toItem hx (fun _ => Item.noConfusion)
        exact ⟨k, hk, hv, hname⟩
  flag b hb := by
    cases h.source hb with
    | @literal k v _ hk hv hx hname =>
        obtain rfl := Value.eq_item_of_toItem hx (fun _ => Item.noConfusion)
        exact ⟨k, hk, hv⟩
  bytes bs hbs := by
    cases h.source hbs with
    | @literal k v _ hk hv hx hname => exact .inl ⟨k, hk, v, hv, hx⟩
    | @digest a s x hs hx =>
        refine .inr ⟨a, s, hs, x, hx, rfl, ?_⟩
        rw [a.length_digest]
        cases a <;> simp [Digest.Algorithm.size]

end Engine

/-! ### Opcodes that compute, compare and measure -/

/-- The number of items that an opcode takes for a calculation, and of numbers that it gives. -/
def Opcode.calculation? : Opcode → Option (Nat × Nat)
  | operation (.onTop r) => r.calculation?
  | operation .depth => some (0, 1)
  | _ => none

/-- The opcodes that compute, compare, measure and check signatures, with the number of items that
they take and of numbers that they give. -/
def Dispatch.calculations : List (Text × Nat × Nat) :=
  [("OP_DEPTH", 0, 1), ("OP_SIZE", 0, 1), ("OP_EQUAL", 2, 1), ("OP_EQUALVERIFY", 2, 0),
    ("OP_1ADD", 1, 1), ("OP_1SUB", 1, 1), ("OP_NEGATE", 1, 1), ("OP_ABS", 1, 1), ("OP_NOT", 1, 1),
    ("OP_0NOTEQUAL", 1, 1), ("OP_ADD", 2, 1), ("OP_SUB", 2, 1), ("OP_BOOLAND", 2, 1),
    ("OP_BOOLOR", 2, 1), ("OP_NUMEQUAL", 2, 1), ("OP_NUMEQUALVERIFY", 2, 0),
    ("OP_NUMNOTEQUAL", 2, 1), ("OP_LESSTHAN", 2, 1), ("OP_GREATERTHAN", 2, 1),
    ("OP_LESSTHANOREQUAL", 2, 1), ("OP_GREATERTHANOREQUAL", 2, 1), ("OP_MIN", 2, 1),
    ("OP_MAX", 2, 1), ("OP_WITHIN", 3, 1), ("OP_CHECKSIG", 2, 1), ("OP_CHECKSIGVERIFY", 2, 0)]

theorem Dispatch.calculations_eq :
    calculations = table.filterMap fun d => d.opcode.calculation?.map (d.name, ·) := by
  decide +kernel

/-- What a calculation does to the stacks: on success, numbers take the place of the operands, and
on failure nothing does. -/
structure Stacks.Calculated (taken given : Nat) (success : Bool) (s s' : Stacks) : Prop where
  alt_eq : s'.alt = s.alt
  main_of_success : success = true →
    ∃ ns : List Int, ns.length = given ∧ s'.main = ns.map .number ++ s.main.drop taken
  main_of_failure : success = false → s'.main = s.main ∨ s'.main = s.main.drop taken

namespace Stacks.Calculated

variable {taken given : Nat} {s s' : Stacks}

theorem of_success (ns : List Int) (halt : s'.alt = s.alt) (hlen : ns.length = given)
    (hmain : s'.main = ns.map .number ++ s.main.drop taken) :
    s.Calculated taken given true s' where
  alt_eq := halt
  main_of_success _ := ⟨ns, hlen, hmain⟩
  main_of_failure h := by cases h

theorem of_failure (halt : s'.alt = s.alt)
    (hmain : s'.main = s.main ∨ s'.main = s.main.drop taken) :
    s.Calculated taken given false s' where
  alt_eq := halt
  main_of_success h := by cases h
  main_of_failure _ := hmain

end Stacks.Calculated

theorem Operation.calculated_run {o : Operation} {taken given : Nat}
    (h : Opcode.calculation? (.operation o) = some (taken, given)) (s : Stacks) :
    s.Calculated taken given (o.run s).1.toBool (o.run s).2 := by
  cases o with
  | onTop r =>
      cases hres : r.rule.result? s.main with
      | none =>
          simp only [run, hres]
          exact .of_failure rfl (.inl rfl)
      | some q =>
          obtain ⟨x, rest⟩ := q
          by_cases hr : r = .size
          · subst hr
            cases h
            rcases hmain : s.main with _ | ⟨a, below⟩ <;> rw [hmain] at hres <;> cases hres
            simp only [run, hmain, TopOp.rule, Rule.result?]
            refine .of_success [a.toBytes.length] rfl rfl ?_
            rw [List.drop_zero, hmain]
            rfl
          · obtain ⟨rfl, hnumbers⟩ := TopOp.ensures_isNumbers h hr
            have hrest := Rule.eq_drop_of_result? hres
            cases x with
            | ok items =>
                obtain ⟨ns, hlen, rfl⟩ := hnumbers.of_result? hres items rfl
                simp only [run, hres]
                exact .of_success ns rfl hlen (hrest ▸ rfl)
            | error f =>
                simp only [run, hres]
                exact .of_failure rfl (.inr hrest)
  | depth =>
      cases h
      exact .of_success [s.main.length] rfl rfl rfl
  | _ => cases h

namespace Engine

/-- An opcode that computes, compares or measures gives numbers for its operands where it is
executed, and does nothing where it is skipped. -/
theorem step_calculation {t : Text} (ht : t.isOpcodeName = true) {taken given : Nat}
    (hc : (t.upper, taken, given) ∈ Dispatch.calculations) (e : Engine) :
    ∃ s e', e.step (.item (.text t)) = (.ok s, e') ∧
      (e.executing = true → e.toStacks.Calculated taken given s.success e'.toStacks) ∧
      (e.executing = false → e' = e) := by
  have hv := Instruction.ofValue_eq_opcode_iff.2 ⟨t, rfl, ht, rfl⟩
  rw [Dispatch.calculations_eq, List.mem_filterMap] at hc
  obtain ⟨d, hmem, hd⟩ := hc
  obtain ⟨c, hcalc, hpair⟩ := Option.map_eq_some_iff.1 hd
  obtain ⟨hname, rfl⟩ := Prod.mk.inj hpair
  obtain ⟨o, ho⟩ : ∃ o, d.opcode = .operation o := by
    cases ho : d.opcode with
    | operation o => exact ⟨o, rfl⟩
    | flow f =>
        rw [ho] at hcalc
        cases hcalc
  rw [ho] at hcalc
  have halways : o.alwaysRuns = false := by
    cases o with
    | abandon => cases hcalc
    | _ => rfl
  have hobey := Machine.obey_operation (Dispatch.resolve_eq_ok_iff.2 ⟨hmem, hname⟩) ho e.toMachine
  refine ⟨_, _, e.step_of_ok hv, ?_, ?_⟩
  · intro hexec
    have hruns := Machine.runs_of_executing o hexec
    rw [hobey]
    obtain hlt | hle := Nat.lt_or_ge e.main.length d.minItems
    · rw [Machine.operate_of_lt hruns hlt]
      exact .of_failure rfl (.inl rfl)
    · have hcalculated := Operation.calculated_run hcalc e.toStacks
      rw [Machine.operate_of_le hruns hle]
      cases hr : (o.run e.toStacks).1 with
      | ok u =>
          rw [hr] at hcalculated
          exact hcalculated
      | error fault =>
          obtain ⟨⟨f, rfl⟩, -⟩ := Machine.run_error hmem ho hle (Prod.ext hr rfl)
          rw [hr] at hcalculated
          exact hcalculated
  · intro hexec
    have hskip : (e.executing || o.alwaysRuns) = false := by rw [hexec, halways, Bool.or_false]
    rw [hobey, Machine.operate_of_skipped hskip]

/-- **No opcode forges a text, a truth value or bytes.**  Every program of items has a report, and
whatever its execution comes through is authentic.  An opcode that computes, compares or measures
puts numbers in the place of its operands, on whatever engine, and never a truth value. -/
theorem execute_authentic {p : List Value} (hp : ∀ v ∈ p, v.IsItem) (e : Engine) :
    (∃ r f, e.execute (.list p) = (.ok r, f) ∧ Reached p f) ∧
      (∀ f, Reached p f → f.Authentic p) ∧
      ∀ (f : Engine) (t : Text) (taken given : Nat), t.isOpcodeName = true →
        (t.upper, taken, given) ∈ Dispatch.calculations →
        ∃ s f', f.step (.item (.text t)) = (.ok s, f') ∧
          (f.executing = true → f.toStacks.Calculated taken given s.success f'.toStacks) ∧
          (f.executing = false → f' = f) := by
  refine ⟨?_, fun f hf => hf.authentic, fun f t taken given ht hc => step_calculation ht hc f⟩
  obtain ⟨r, f, h⟩ := exists_report_of_isItem hp
  have hreached := reached_executeList p
  rw [h] at hreached
  exact ⟨r, f, h, hreached⟩

/-- The digest of a text is put aside, and a truth value is compared with the byte that it stands
for: the answer is a number. -/
theorem execute_authentic_aside :
    let p : List Value := [.item (.flag true), .item (.text "0x01"), .item (.text "OP_SHA256"),
      .item (.text "op_toAltStack"), .buffer [1], .item (.text "op_Equal")]
    (∀ v ∈ p, v.IsItem) ∧ (∃ r f, fresh.execute (.list p) = (.ok r, f) ∧ Reached p f) ∧
      (∀ f, Reached p f → f.Authentic p) ∧
      ∃ s f', Engine.step (.item (.text "op_Equal"))
          ⟨⟨⟨[.bytes [1], .flag true], []⟩, []⟩, []⟩ = (.ok s, f') ∧
        Stacks.Calculated 2 1 s.success ⟨[.bytes [1], .flag true], []⟩ f'.toStacks := by
  intro p
  have hp : ∀ v ∈ p, v.IsItem := by simp [p, Value.IsItem, Value.toItem]
  obtain ⟨hreport, hauthentic, hcalculated⟩ := execute_authentic hp fresh
  obtain ⟨s, f', hstep, hexec, -⟩ := hcalculated ⟨⟨⟨[.bytes [1], .flag true], []⟩, []⟩, []⟩
    "op_Equal" 2 1 (by decide +kernel) (by decide +kernel)
  exact ⟨hp, hreport, hauthentic, s, f', hstep, hexec rfl⟩

end Engine

end ScriptTutor
