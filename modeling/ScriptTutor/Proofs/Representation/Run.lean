/-
**Programs that write their literals differently.**

A literal may be exchanged for another one with the same canonical form, at any number of places of
a program.  The two programs then run in lockstep: after every step the two machines have the same
canonical form, which is the invariant that the induction on the programs carries.

Main definitions:

* `ScriptTutor.Value.Interchangeable` — two values are the same, or literals with the same canonical
  form;
* `ScriptTutor.Step.Alike`, `ScriptTutor.Report.Alike` — two steps, and two reports, differ at most
  in how items are written.

Main results:

* `ScriptTutor.Machine.run_alike` — interchangeable programs **run in lockstep**;
* `ScriptTutor.Engine.execute_interchangeable` — **the reports on interchangeable programs are
  alike**.
-/

import Mathlib.Data.List.Forall2
import ScriptTutor.Engine
import ScriptTutor.Proofs.Machine.Passes
import ScriptTutor.Proofs.Representation.Machine

set_option relaxedAutoImplicit false
set_option autoImplicit false

namespace ScriptTutor

/-! ### Interchangeable values -/

/-- Two values are the same, or literals with the same canonical form. -/
def Value.Interchangeable (v w : Value) : Prop :=
  v = w ∨ ∃ x y, Instruction.ofValue v = .ok (.literal x) ∧
    Instruction.ofValue w = .ok (.literal y) ∧ x.canonical = y.canonical

theorem Instruction.related_canonical_self (i : Instruction) :
    i.Related (fun x y => x.canonical = y.canonical) i := by
  cases i with
  | literal x => exact .literal rfl
  | opcode name => exact .opcode fun d _ => d.opcode.respects_canonical

/-- Interchangeable values are both no instruction, or instructions that differ at most in how their
items are written. -/
theorem Value.Interchangeable.related {v w : Value} (h : v.Interchangeable w) :
    Value.Related (fun x y => x.canonical = y.canonical) v w := by
  obtain rfl | ⟨x, y, hv, hw, hxy⟩ := h
  · cases hv : Instruction.ofValue v with
    | error e => exact .fault hv hv
    | ok i => exact .instruction hv hv i.related_canonical_self
  · exact .instruction hv hw (.literal hxy)

/-! ### Runs in lockstep -/

/-- Two steps differ at most in their labels and in how the items on the stack are written. -/
structure Step.Alike (s t : Step) : Prop where
  before : s.before.map Item.canonical = t.before.map Item.canonical
  after : s.after.map Item.canonical = t.after.map Item.canonical
  success : s.success = t.success
  error : s.error = t.error

theorem Step.alike_of_related {s t : Step}
    (h : s.Related (fun x y => x.canonical = y.canonical) t) : s.Alike t :=
  ⟨Item.forall₂_canonical_iff.1 h.before, Item.forall₂_canonical_iff.1 h.after, h.success, h.error⟩

namespace Machine

/-- Two runs take steps that are alike, end in the same way, and end on machines with the same
canonical form. -/
structure Run.Alike (r s : Run) : Prop where
  steps : List.Forall₂ Step.Alike r.steps s.steps
  ending : r.ending = s.ending
  machine : r.machine.canonical = s.machine.canonical

section

variable {m n : Machine}

theorem main_congr (h : m.canonical = n.canonical) :
    m.main.map Item.canonical = n.main.map Item.canonical :=
  congrArg (fun k => k.main) h

theorem snapshot_congr (h : m.canonical = n.canonical) :
    m.main.snapshot.map Item.canonical = n.main.snapshot.map Item.canonical := by
  rw [Stack.snapshot, Stack.snapshot, List.map_reverse, List.map_reverse, main_congr h]

/-- Interchangeable programs **run in lockstep**. -/
theorem run_alike {p q : List Value} (h : List.Forall₂ Value.Interchangeable p q)
    (hm : m.canonical = n.canonical) : (run p m).Alike (run q n) := by
  have hpq : List.Forall₂ (Value.Related fun x y => x.canonical = y.canonical) p q :=
    h.imp fun _ _ hvw => hvw.related
  obtain ⟨hsteps, hending, hmachine⟩ := run_related hpq (related_canonical_iff.2 hm)
  exact ⟨hsteps.imp fun _ _ => Step.alike_of_related, hending, related_canonical_iff.1 hmachine⟩

end

end Machine

/-! ### Reports that are alike -/

/-- Two reports have the same verdict and differ at most in how items are written. -/
structure Report.Alike (r s : Report) : Prop where
  success : r.success = s.success
  error : r.error = s.error
  finalStack : r.finalStack.map Item.canonical = s.finalStack.map Item.canonical
  steps : List.Forall₂ Step.Alike r.steps s.steps

namespace Engine

/-- The verdict asks for the truth of an item only. -/
theorem objection?_canonical (m : Machine) : objection? m.canonical = objection? m := by
  obtain ⟨⟨_ | ⟨x, rest⟩, alt⟩, _ | ⟨f, bs⟩⟩ := m
  · rfl
  · rfl
  · simp [objection?, Machine.canonical, Stacks.canonical]
  · rfl

theorem objection?_congr {m n : Machine} (h : m.canonical = n.canonical) :
    objection? m = objection? n := by
  rw [← objection?_canonical, h, objection?_canonical]

theorem verdict_alike {e f : Engine} (error : Option Text)
    (hm : e.toMachine.canonical = f.toMachine.canonical)
    (hs : List.Forall₂ Step.Alike e.steps f.steps) :
    (e.verdict error).Alike (f.verdict error) where
  success := by rw [verdict, verdict, objection?_congr hm]
  error := by rw [verdict, verdict, objection?_congr hm]
  finalStack := Machine.snapshot_congr hm
  steps := hs

/-- **The reports on interchangeable programs are alike.**  If there is none, because a value is no
item, then the two executions have the same fault. -/
theorem execute_interchangeable {p q : List Value} (h : List.Forall₂ Value.Interchangeable p q)
    (e e' : Engine) :
    (∃ r s, (e.execute (.list p)).1 = .ok r ∧ (e'.execute (.list q)).1 = .ok s ∧ r.Alike s) ∨
    ∃ f, (e.execute (.list p)).1 = .error f ∧ (e'.execute (.list q)).1 = .error f ∧
      ∃ v ∈ p, ¬ v.IsItem := by
  obtain ⟨hsteps, hending, hmachine⟩ := Machine.run_alike h (m := Machine.start) rfl
  rw [execute_list, execute_list, executeList, executeList, conclude_eq, conclude_eq, ← hending]
  obtain hfin | ⟨f, hfail⟩ | ⟨fault, hfault, hitem⟩ := Machine.ending_cases p Machine.start
  · rw [hfin]
    exact .inl ⟨_, _, rfl, rfl, verdict_alike none hmachine hsteps⟩
  · rw [hfail]
    exact .inl ⟨_, _, rfl, rfl, verdict_alike (some f.message) hmachine hsteps⟩
  · rw [hfault]
    exact .inr ⟨fault, rfl, rfl, hitem⟩

/-- Five and one make six, however they are written. -/
theorem execute_interchangeable_sum :
    ∃ r s,
      (fresh.execute (.list [.item (.number 5), .item (.flag true), .item (.text "OP_ADD"),
        .buffer [6], .item (.text "OP_EQUAL")])).1 = .ok r ∧
      (fresh.execute (.list [.item (.bytes [5]), .item (.number 1), .item (.text "OP_ADD"),
        .item (.number 6), .item (.text "OP_EQUAL")])).1 = .ok s ∧ r.Alike s := by
  have hliteral : ∀ {v w : Value} {x y : Item}, Instruction.ofValue v = .ok (.literal x) →
      Instruction.ofValue w = .ok (.literal y) → x.canonical = y.canonical →
      v.Interchangeable w := fun hv hw hxy => .inr ⟨_, _, hv, hw, hxy⟩
  refine (execute_interchangeable (.cons (hliteral rfl rfl (by decide))
    (.cons (hliteral rfl rfl (by decide)) (.cons (.inl rfl)
      (.cons (hliteral rfl rfl (by decide)) (.cons (.inl rfl) .nil)))))
      fresh fresh).resolve_right ?_
  rintro ⟨-, -, -, v, hv, hitem⟩
  simp only [List.mem_cons, List.not_mem_nil, or_false] at hv
  obtain rfl | rfl | rfl | rfl | rfl := hv <;> exact hitem ⟨_, rfl⟩

end Engine

end ScriptTutor
