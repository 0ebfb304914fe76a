/-
**Programs on the top of an executing stack.**

Main definitions:

* `ScriptTutor.Machine.Names` — a text names an opcode on the top of the stack;
* `ScriptTutor.Machine.opcodes` — the program of opcodes with given names;
* `ScriptTutor.Machine.Turns` — a program makes items of the items on top, and changes nothing else.

Main results:

* `ScriptTutor.Machine.obey_onTop_iff` — such an opcode **succeeds exactly if its rule gives a
  result**;
* `ScriptTutor.Machine.passes_onTop_iff`, `ScriptTutor.Machine.passes_literal_iff` — what a program
  does that begins with such an opcode, or with a literal.
-/

import ScriptTutor.Proofs.Machine.Passes

set_option relaxedAutoImplicit false
set_option autoImplicit false

namespace ScriptTutor

theorem Dispatch.isOpcodeName_name : ∀ d ∈ table, d.name.isOpcodeName = true := by
  decide +kernel

namespace Machine

/-- Where instructions are executed, an opcode on the top of the stack succeeds exactly if its rule
applies and gives a result. -/
theorem obey_onTop_iff {name : Text} {d : DispatchEntry} {r : TopOp} {m m' : Machine}
    (hd : Dispatch.resolve name = .ok d) (ho : d.opcode = .operation (.onTop r))
    (hm : m.executing = true) :
    obey (.opcode name) m = (.ok (), m') ↔
      ∃ items rest, r.rule.result? m.main = some (.ok items, rest) ∧
        { m with main := items ++ rest } = m' := by
  have hneeds := (Dispatch.consistent_of_mem d (Dispatch.resolve_eq_ok_iff.1 hd).1).minItems_eq
  rw [ho] at hneeds
  have hruns := runs_of_executing (.onTop r) hm
  rw [obey_operation hd ho]
  cases hres : r.rule.result? m.main with
  | none =>
      have hlt : m.main.length < d.minItems := by
        rw [hneeds]
        exact (r.rule.result?_eq_none_iff m.main).1 hres
      simp [operate_of_lt hruns hlt]
  | some p =>
      obtain ⟨x, rest⟩ := p
      have hle : d.minItems ≤ m.main.length := by
        rw [hneeds]
        refine Nat.not_lt.1 fun hlt => ?_
        rw [(r.rule.result?_eq_none_iff m.main).2 hlt] at hres
        cases hres
      cases x with
      | ok items =>
          simp only [operate_of_le hruns hle, Operation.run, hres]
          constructor
          · intro h
            cases h
            exact ⟨items, rest, rfl, rfl⟩
          · rintro ⟨_, _, h, rfl⟩
            cases h
            rfl
      | error f => simp [operate_of_le hruns hle, Operation.run, hres]

/-- Where instructions are executed, an opcode whose rule gives a result puts it in the place of its
operands. -/
theorem obey_onTop_of_result {d : DispatchEntry} {r : TopOp} {s rest alt : Stack} {bs : Branches}
    {items : List Item} (hd : d ∈ Dispatch.table) (ho : d.opcode = .operation (.onTop r))
    (hbs : bs.executing = true) (hres : r.rule.result? s = some (.ok items, rest)) :
    obey (.opcode d.name) ⟨⟨s, alt⟩, bs⟩ = (.ok (), ⟨⟨items ++ rest, alt⟩, bs⟩) := by
  have hm : executing ⟨⟨s, alt⟩, bs⟩ = true := hbs
  exact (obey_onTop_iff (Dispatch.resolve_name hd) ho hm).2 ⟨items, rest, hres, rfl⟩

/-- A text names an opcode on the top of the stack. -/
def Names (t : Text) (r : TopOp) : Prop :=
  t.isOpcodeName = true ∧
    ∃ d ∈ Dispatch.table, d.name = t.upper ∧ d.opcode = .operation (.onTop r)

instance (t : Text) (r : TopOp) : Decidable (Names t r) :=
  inferInstanceAs (Decidable (_ ∧ _))

section

variable {p : List Value} {s alt : Stack} {bs : Branches} {m' : Machine}

/-- A program that begins with an opcode on the top of the stack. -/
theorem passes_onTop_iff {t : Text} {r : TopOp} (h : Names t r) (hbs : bs.executing = true) :
    Passes (.item (.text t) :: p) ⟨⟨s, alt⟩, bs⟩ m' ↔
      ∃ items rest, r.rule.result? s = some (.ok items, rest) ∧
        Passes p ⟨⟨items ++ rest, alt⟩, bs⟩ m' := by
  obtain ⟨hname, d, hmem, hd, ho⟩ := h
  have hd := Dispatch.resolve_eq_ok_iff.2 ⟨hmem, hd⟩
  have hv : Instruction.ofValue (.item (.text t)) = .ok (.opcode t.upper) :=
    Instruction.ofValue_eq_opcode_iff.2 ⟨t, rfl, hname, rfl⟩
  have hm : Machine.executing ⟨⟨s, alt⟩, bs⟩ = true := hbs
  rw [passes_cons_iff]
  constructor
  · rintro ⟨i, mid, hi, hobey, hp⟩
    cases hv.symm.trans hi
    obtain ⟨items, rest, hres, rfl⟩ := (obey_onTop_iff hd ho hm).1 hobey
    exact ⟨items, rest, hres, hp⟩
  · rintro ⟨items, rest, hres, hp⟩
    exact ⟨_, _, hv, (obey_onTop_iff hd ho hm).2 ⟨items, rest, hres, rfl⟩, hp⟩

/-- An opcode whose rule gives a result puts it in the place of its operands. -/
theorem passes_onTop_of_result {t : Text} {r : TopOp} {items : List Item} {rest : Stack}
    (h : Names t r) (hbs : bs.executing = true)
    (hres : r.rule.result? s = some (.ok items, rest)) :
    Passes (.item (.text t) :: p) ⟨⟨s, alt⟩, bs⟩ m' ↔ Passes p ⟨⟨items ++ rest, alt⟩, bs⟩ m' := by
  rw [passes_onTop_iff h hbs]
  constructor
  · rintro ⟨_, _, hres', hp⟩
    cases hres.symm.trans hres'
    exact hp
  · intro hp
    exact ⟨items, rest, hres, hp⟩

/-- A program that begins with a literal. -/
theorem passes_literal_iff {v : Value} {x : Item} (hv : Instruction.ofValue v = .ok (.literal x))
    (hbs : bs.executing = true) :
    Passes (v :: p) ⟨⟨s, alt⟩, bs⟩ m' ↔ Passes p ⟨⟨x :: s, alt⟩, bs⟩ m' := by
  have hobey : obey (.literal x) ⟨⟨s, alt⟩, bs⟩ = (.ok (), ⟨⟨x :: s, alt⟩, bs⟩) := by
    rw [obey_literal, executing, if_pos hbs]
  rw [passes_cons_iff]
  constructor
  · rintro ⟨i, mid, hi, ho, hp⟩
    cases hv.symm.trans hi
    cases hobey.symm.trans ho
    exact hp
  · intro hp
    exact ⟨_, _, hv, hobey, hp⟩

end

/-! ### Programs of opcodes -/

def opcodes (names : List Text) : List Value := names.map fun t => .item (.text t)

theorem opcodes_cons (t : Text) (ts : List Text) :
    opcodes (t :: ts) = .item (.text t) :: opcodes ts := rfl

/-- Wherever instructions are executed, the program takes the items `xs` off the top of the stack
and puts `ys` in their place, top first.  It changes nothing else. -/
def Turns (p : List Value) (xs ys : List Item) : Prop :=
  ∀ (rest alt : Stack) (bs : Branches), bs.executing = true →
    Passes p ⟨⟨xs ++ rest, alt⟩, bs⟩ ⟨⟨ys ++ rest, alt⟩, bs⟩

namespace Turns

variable {p q : List Value} {xs ys zs : List Item}

theorem append (hp : Turns p xs ys) (hq : Turns q ys zs) : Turns (p ++ q) xs zs := by
  intro rest alt bs hbs
  exact passes_append_iff.2 ⟨_, hp rest alt bs hbs, hq rest alt bs hbs⟩

theorem above (hp : Turns p xs ys) (below : List Item) : Turns p (xs ++ below) (ys ++ below) := by
  intro rest alt bs hbs
  rw [List.append_assoc, List.append_assoc]
  exact hp (below ++ rest) alt bs hbs

theorem of_result? {name : Text} {r : TopOp} {n : Nat}
    (hmem : ⟨name, .operation (.onTop r), n⟩ ∈ Dispatch.table)
    (hres : r.rule.result? xs = some (.ok ys, [])) : Turns (opcodes [name]) xs ys := by
  intro rest alt bs hbs
  have hname : Names name r := by
    refine ⟨Dispatch.isOpcodeName_name _ hmem, _, hmem, ?_, rfl⟩
    exact (Dispatch.consistent_of_mem _ hmem).upper_name.symm
  exact (passes_onTop_of_result hname hbs (Rule.result?_append hres rest)).2 (passes_nil_iff.2 rfl)

end Turns

end Machine

end ScriptTutor
