/-
**Machines with related items.**

Two machines may differ in their items alone: the stacks have the same heights, and the items at the
same places are related in some way.  Whether an instruction can tell the two machines apart depends
on the relation only through the rule of the instruction: if the rule makes related results of
related operands, then the instruction succeeds or fails on both machines alike, and leaves them
related.  So for each relation there is one thing to show, which opcodes respect it, and programs of
such opcodes run in lockstep.

Main definitions:

* `ScriptTutor.Rule.Respects`, `ScriptTutor.Operation.Respects`, `ScriptTutor.Opcode.Respects` —
  related operands have related results;
* `ScriptTutor.Machine.Related` — two machines with related items and the same branches;
* `ScriptTutor.Value.Related` — two values are the same opcode, which respects the relation, or
  related literals;
* `ScriptTutor.Machine.Run.Related` — two runs take the same steps on related stacks.

Main results:

* `ScriptTutor.Operation.run_related` — an operation that respects a relation **keeps stacks
  related**;
* `ScriptTutor.Machine.obey_related` — **and so does every instruction**;
* `ScriptTutor.Machine.run_related` — related programs **run in lockstep**.
-/

import Mathlib.Data.List.Forall2
import ScriptTutor.Proofs.Machine.Passes

set_option relaxedAutoImplicit false
set_option autoImplicit false

namespace ScriptTutor

variable {R : Item → Item → Prop}

/-! ### Rules -/

/-- Two replacements have related items, or they are the same failure. -/
inductive Replacement.Related (R : Item → Item → Prop) : Replacement → Replacement → Prop
  | items {xs ys : List Item} (h : List.Forall₂ R xs ys) : Related R (.ok xs) (.ok ys)
  | failure (f : Failure) : Related R (.error f) (.error f)

@[simp] theorem Replacement.related_ok_iff {xs ys : List Item} :
    Replacement.Related R (.ok xs) (.ok ys) ↔ List.Forall₂ R xs ys := by
  constructor
  · rintro ⟨h⟩
    exact h
  · exact .items

namespace Rule

/-- Related operands have related results. -/
def Respects (R : Item → Item → Prop) : Rule → Prop
  | zero x => Replacement.Related R x x
  | one f => ∀ a a', R a a' → Replacement.Related R (f a) (f a')
  | two f => ∀ a a', R a a' → ∀ b b', R b b' → Replacement.Related R (f a b) (f a' b')
  | three f => ∀ a a', R a a' → ∀ b b', R b b' → ∀ c c', R c c' →
    Replacement.Related R (f a b c) (f a' b' c')
  | four f => ∀ a a', R a a' → ∀ b b', R b b' → ∀ c c', R c c' → ∀ d d', R d d' →
    Replacement.Related R (f a b c d) (f a' b' c' d')

/-- A rule that respects a relation applies to both of two related stacks, or to neither, and it
leaves related stacks below related results. -/
theorem result?_related {r : Rule} (hr : r.Respects R) {s t : Stack} (h : List.Forall₂ R s t) :
    (r.result? s = none ∧ r.result? t = none) ∨
    ∃ x y s' t', r.result? s = some (x, s') ∧ r.result? t = some (y, t') ∧
      Replacement.Related R x y ∧ List.Forall₂ R s' t' := by
  cases r with
  | zero x => exact .inr ⟨x, x, s, t, rfl, rfl, hr, h⟩
  | one f =>
      rcases h with _ | ⟨ha, h⟩
      · exact .inl ⟨rfl, rfl⟩
      · exact .inr ⟨_, _, _, _, rfl, rfl, hr _ _ ha, h⟩
  | two f =>
      rcases h with _ | ⟨ha, _ | ⟨hb, h⟩⟩
      · exact .inl ⟨rfl, rfl⟩
      · exact .inl ⟨rfl, rfl⟩
      · exact .inr ⟨_, _, _, _, rfl, rfl, hr _ _ ha _ _ hb, h⟩
  | three f =>
      rcases h with _ | ⟨ha, _ | ⟨hb, _ | ⟨hc, h⟩⟩⟩
      · exact .inl ⟨rfl, rfl⟩
      · exact .inl ⟨rfl, rfl⟩
      · exact .inl ⟨rfl, rfl⟩
      · exact .inr ⟨_, _, _, _, rfl, rfl, hr _ _ ha _ _ hb _ _ hc, h⟩
  | four f =>
      rcases h with _ | ⟨ha, _ | ⟨hb, _ | ⟨hc, _ | ⟨hd, h⟩⟩⟩⟩
      · exact .inl ⟨rfl, rfl⟩
      · exact .inl ⟨rfl, rfl⟩
      · exact .inl ⟨rfl, rfl⟩
      · exact .inl ⟨rfl, rfl⟩
      · exact .inr ⟨_, _, _, _, rfl, rfl, hr _ _ ha _ _ hb _ _ hc _ _ hd, h⟩

end Rule

/-! ### Operations -/

/-- Two pairs of stacks have related items at the same places. -/
structure Stacks.Related (R : Item → Item → Prop) (s t : Stacks) : Prop where
  main : List.Forall₂ R s.main t.main
  alt : List.Forall₂ R s.alt t.alt

namespace Operation

/-- The operation makes related results of related items.  One that counts the stack pushes the same
number on both stacks. -/
def Respects (R : Item → Item → Prop) : Operation → Prop
  | onTop r => r.rule.Respects R
  | depth => ∀ n, R (.number n) (.number n)
  | _ => True

/-- An operation that respects a relation **keeps stacks related**, and succeeds on both or fails on
both alike. -/
theorem run_related {o : Operation} (ho : o.Respects R) {s t : Stacks} (h : s.Related R t) :
    (o.run s).1 = (o.run t).1 ∧ (o.run s).2.Related R (o.run t).2 := by
  have hlen : s.main.length = t.main.length := h.main.length_eq
  cases o with
  | onTop r =>
      obtain ⟨hs, ht⟩ | ⟨x, y, s', t', hs, ht, hxy, hrest⟩ := Rule.result?_related ho h.main
      · have hresult : ((onTop r).run s).1 = ((onTop r).run t).1 := by simp only [run, hs, ht, hlen]
        refine ⟨hresult, ?_⟩
        simp only [run, hs, ht]
        exact h
      · simp only [run, hs, ht]
        cases hxy with
        | items hitems => exact ⟨rfl, List.rel_append hitems hrest, h.alt⟩
        | failure f => exact ⟨rfl, hrest, h.alt⟩
  | toAlt =>
      obtain ⟨smain, salt⟩ := s
      obtain ⟨tmain, talt⟩ := t
      obtain ⟨hmain, halt⟩ := h
      rcases hmain with _ | ⟨hx, hrest⟩
      · exact ⟨rfl, .nil, halt⟩
      · exact ⟨rfl, hrest, .cons hx halt⟩
  | fromAlt =>
      obtain ⟨smain, salt⟩ := s
      obtain ⟨tmain, talt⟩ := t
      obtain ⟨hmain, halt⟩ := h
      rcases halt with _ | ⟨hx, hrest⟩
      · exact ⟨rfl, hmain, .nil⟩
      · exact ⟨rfl, .cons hx hmain, hrest⟩
  | depth =>
      have hnumber : R (.number s.main.length) (.number t.main.length) := hlen ▸ ho _
      exact ⟨rfl, .cons hnumber h.main, h.alt⟩
  | abandon => exact ⟨rfl, h⟩

end Operation

/-! ### Instructions -/

/-- The opcode makes related results of related items.  One that opens a branch asks for the truth
of an item. -/
def Opcode.Respects (R : Item → Item → Prop) : Opcode → Prop
  | flow .onTrue => ∀ x y, R x y → x.isTrue = y.isTrue
  | flow .onFalse => ∀ x y, R x y → x.isTrue = y.isTrue
  | flow _ => True
  | operation o => o.Respects R

/-- What runs under the name, if anything does, respects the relation. -/
def Dispatch.Respects (R : Item → Item → Prop) (name : Text) : Prop :=
  ∀ d, resolve name = .ok d → d.opcode.Respects R

/-- Two instructions are the same opcode, which respects the relation, or related literals. -/
inductive Instruction.Related (R : Item → Item → Prop) : Instruction → Instruction → Prop
  | literal {x y : Item} (h : R x y) : Related R (.literal x) (.literal y)
  | opcode {name : Text} (h : Dispatch.Respects R name) : Related R (.opcode name) (.opcode name)

namespace Machine

/-- Two machines have related items at the same places of the stacks, and the same branches. -/
structure Related (R : Item → Item → Prop) (m n : Machine) : Prop where
  toStacks : m.toStacks.Related R n.toStacks
  branches : m.branches = n.branches

/-- Two instructions have the same result, and they leave related machines. -/
structure Agree (R : Item → Item → Prop) (x y : Except Fault Unit × Machine) : Prop where
  result : x.1 = y.1
  machine : x.2.Related R y.2

theorem Agree.exists_eq {x y : Except Fault Unit × Machine} (h : Agree R x y)
    {r : Except Fault Unit} {m : Machine} (hx : x = (r, m)) : ∃ n, y = (r, n) ∧ m.Related R n := by
  subst hx
  exact ⟨y.2, Prod.ext h.result.symm rfl, h.machine⟩

section

variable {m n : Machine}

theorem Related.executing (h : m.Related R n) : m.executing = n.executing :=
  congrArg Branches.executing h.branches

theorem Related.length_main (h : m.Related R n) : m.main.length = n.main.length :=
  h.toStacks.main.length_eq

theorem openBranch_related {expected : Bool} {name : Text}
    (hR : ∀ x y, R x y → x.isTrue = y.isTrue) (h : m.Related R n) :
    Agree R (openBranch expected name m) (openBranch expected name n) := by
  have hexec := h.executing
  obtain ⟨⟨smain, salt⟩, bs⟩ := m
  obtain ⟨⟨tmain, talt⟩, cs⟩ := n
  obtain ⟨⟨hmain, halt⟩, hbs⟩ := h
  obtain rfl : bs = cs := hbs
  rw [openBranch, openBranch, hexec]
  split
  · rcases hmain with _ | ⟨hx, hrest⟩
    · exact ⟨rfl, ⟨.nil, halt⟩, rfl⟩
    · exact ⟨rfl, ⟨hrest, halt⟩, by simp [hR _ _ hx]⟩
  · exact ⟨rfl, ⟨hmain, halt⟩, rfl⟩

theorem setBranches_related (bs : Except Failure Branches) (h : m.Related R n) :
    Agree R (setBranches bs m) (setBranches bs n) := by
  cases bs with
  | ok bs => exact ⟨rfl, h.toStacks, rfl⟩
  | error f => exact ⟨rfl, h⟩

theorem flow_related {name : Text} {f : Flow} (hf : (Opcode.flow f).Respects R)
    (h : m.Related R n) : Agree R (flow name m f) (flow name n f) := by
  cases f with
  | onTrue => exact openBranch_related hf h
  | onFalse => exact openBranch_related hf h
  | otherwise =>
      rw [flow, flow, h.branches]
      exact setBranches_related _ h
  | close =>
      rw [flow, flow, h.branches]
      exact setBranches_related _ h

theorem operate_related {d : DispatchEntry} {o : Operation} (ho : o.Respects R)
    (h : m.Related R n) : Agree R (operate d o m) (operate d o n) := by
  have hexec : (m.executing || o.alwaysRuns) = (n.executing || o.alwaysRuns) :=
    congrArg (· || o.alwaysRuns) h.executing
  have hlen := h.length_main
  obtain hskip | ⟨hruns, hlt⟩ | ⟨hruns, hle⟩ := operate_cases d o m
  · rw [operate_of_skipped hskip, operate_of_skipped (hexec.symm.trans hskip)]
    exact ⟨rfl, h⟩
  · rw [operate_of_lt hruns hlt, operate_of_lt (hexec.symm.trans hruns) (hlen ▸ hlt), hlen]
    exact ⟨rfl, h⟩
  · obtain ⟨hresult, hstacks⟩ := Operation.run_related ho h.toStacks
    rw [operate_of_le hruns hle, operate_of_le (hexec.symm.trans hruns) (hlen ▸ hle)]
    exact ⟨hresult, hstacks, h.branches⟩

/-- **Related instructions keep machines related**, and succeed on both or fail on both alike. -/
theorem obey_related {i j : Instruction} (hij : i.Related R j) (h : m.Related R n) :
    Agree R (obey i m) (obey j n) := by
  cases hij with
  | literal hxy =>
      rw [obey_literal, obey_literal, h.executing]
      split
      · exact ⟨rfl, ⟨.cons hxy h.toStacks.main, h.toStacks.alt⟩, h.branches⟩
      · exact ⟨rfl, h⟩
  | @opcode name hname =>
      obtain ⟨f, hf⟩ | ⟨f, rfl, hf⟩ | ⟨d, o, hd, ho, hf⟩ := obey_opcode_cases name
      · rw [hf, hf]
        exact ⟨rfl, h⟩
      · obtain ⟨d, hd, -, ho⟩ := Dispatch.resolve_flow f
        have hrespects := hname d hd
        rw [ho] at hrespects
        rw [hf, hf]
        exact flow_related hrespects h
      · have hrespects := hname d hd
        rw [ho] at hrespects
        rw [hf, hf]
        exact operate_related hrespects h

end

end Machine

/-! ### Programs -/

/-- Two values are no instructions of one kind, or related instructions. -/
inductive Value.Related (R : Item → Item → Prop) (v w : Value) : Prop
  | fault {e : Fault} (hv : Instruction.ofValue v = .error e)
      (hw : Instruction.ofValue w = .error e) : Related R v w
  | instruction {i j : Instruction} (hv : Instruction.ofValue v = .ok i)
      (hw : Instruction.ofValue w = .ok j) (h : i.Related R j) : Related R v w

/-- Two steps differ at most in their labels, and in the items on the stacks, which are related. -/
structure Step.Related (R : Item → Item → Prop) (s t : Step) : Prop where
  before : List.Forall₂ R s.before t.before
  after : List.Forall₂ R s.after t.after
  success : s.success = t.success
  error : s.error = t.error

namespace Machine

/-- Two runs take related steps, end in the same way, and end on related machines. -/
structure Run.Related (R : Item → Item → Prop) (r s : Run) : Prop where
  steps : List.Forall₂ (Step.Related R) r.steps s.steps
  ending : r.ending = s.ending
  machine : r.machine.Related R s.machine

theorem snapshot_related {s t : Stack} (h : List.Forall₂ R s t) :
    List.Forall₂ R s.snapshot t.snapshot := List.rel_reverse h

theorem record_related (i j : Instruction) {m n m' n' : Machine} (h : m.Related R n)
    (h' : m'.Related R n') (failure : Option Failure) :
    (record i m m' failure).Related R (record j n n' failure) :=
  ⟨snapshot_related h.toStacks.main, snapshot_related h'.toStacks.main, rfl, rfl⟩

/-- Related programs **run in lockstep**. -/
theorem run_related {p q : List Value} (hpq : List.Forall₂ (Value.Related R) p q) {m n : Machine}
    (h : m.Related R n) : (run p m).Related R (run q n) := by
  induction hpq generalizing m n with
  | nil => exact ⟨.nil, rfl, h⟩
  | cons hvw _ ih =>
      cases hvw with
      | fault hv hw =>
          rw [run_cons_of_fault (step_of_error hv m), run_cons_of_fault (step_of_error hw n)]
          exact ⟨.nil, rfl, h⟩
      | @instruction i j hv hw hij =>
          have hagree := obey_related hij h
          obtain ⟨m', hi⟩ | ⟨f, m', hi⟩ := obey_cases i m
          · obtain ⟨n', hj, h'⟩ := hagree.exists_eq hi
            obtain ⟨hsteps, hending, hmachine⟩ := ih h'
            rw [run_cons_of_ok hv hi, run_cons_of_ok hw hj]
            exact ⟨.cons (record_related i j h h' none) hsteps, hending, hmachine⟩
          · obtain ⟨n', hj, h'⟩ := hagree.exists_eq hi
            rw [run_cons_of_error hv hi, run_cons_of_error hw hj]
            exact ⟨.cons (record_related i j h h' (some f)) .nil, rfl, h'⟩

end Machine

end ScriptTutor
