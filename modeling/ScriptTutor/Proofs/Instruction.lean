/-
**Which value is which instruction.**

Main definitions:

* `ScriptTutor.Value.flow?`, `ScriptTutor.Instruction.flow?` — the opcode of conditionals that a
  value names, and the one that an instruction is;
* `ScriptTutor.Value.IsHarmless` — a value that may stand in an arm that is skipped.

Main results:

* `ScriptTutor.Instruction.ofValue_of_isItem`, `ScriptTutor.Instruction.ofValue_eq_error_iff` —
  every item is an instruction, and nothing else is;
* `ScriptTutor.Instruction.ofValue_eq_opcode_iff`,
  `ScriptTutor.Instruction.ofValue_eq_literal_iff` — **the opcodes are the texts that name one**,
  and all other items are literals;
* `ScriptTutor.Instruction.flow?_of_ofValue`, `ScriptTutor.Instruction.ofValue_of_flow?` — a value
  names the opcode of conditionals that its instruction is.
-/

import ScriptTutor.Instruction
import ScriptTutor.Proofs.Dispatch

set_option relaxedAutoImplicit false
set_option autoImplicit false

namespace ScriptTutor

/-- The opcode of conditionals that a value names, in any letter case. -/
def Value.flow? : Value → Option Flow
  | .item (.text t) => Flow.ofName? t.upper
  | _ => none

/-- The opcode of conditionals that an instruction is. -/
def Instruction.flow? : Instruction → Option Flow
  | literal _ => none
  | opcode name => Flow.ofName? name

/-- A value does nothing where it is skipped: it is a literal, or an opcode that the catalog enables
and that does not give the script up. -/
def Value.IsHarmless (v : Value) : Prop :=
  v.IsItem ∧ ∀ t, v = .item (.text t) → t.isOpcodeName = true →
    Catalog.isEnabled t = true ∧ t.upper ≠ "OP_RETURN"

theorem Text.isOpcodeName_of_flow {t : Text} {f : Flow} (h : Flow.ofName? t.upper = some f) :
    t.isOpcodeName = true := by
  rw [Text.isOpcodeName, ← Flow.ofName?_eq_some_iff.1 h]
  cases f <;> decide +kernel

theorem Text.isOpcodeName_zero (t : Text) :
    Text.isOpcodeName (CodePoint.ofChar '0' :: t) = false := rfl

namespace Instruction

/-- A value that can be an item is an instruction. -/
theorem ofValue_of_isItem {v : Value} (h : v.IsItem) : ∃ i, ofValue v = .ok i := by
  obtain ⟨x, hx⟩ := h
  exact ⟨ofItem x, by rw [ofValue, hx]; rfl⟩

theorem isItem_of_ofValue {v : Value} {i : Instruction} (h : ofValue v = .ok i) : v.IsItem := by
  cases hv : v.toItem with
  | ok x => exact ⟨x, hv⟩
  | error e =>
      rw [ofValue, hv] at h
      cases h

/-- A value that is no instruction is no item. -/
theorem ofValue_eq_error_iff {v : Value} {e : Fault} :
    ofValue v = .error e ↔ ¬ v.IsItem ∧ e = v.refusal := by
  constructor
  · intro h
    constructor
    · intro hitem
      obtain ⟨i, hi⟩ := ofValue_of_isItem hitem
      cases h.symm.trans hi
    · cases v with
      | item x => cases h
      | buffer bs => cases h
      | view bs => cases h
      | _ =>
          cases h
          rfl
  · rintro ⟨hitem, rfl⟩
    cases v with
    | item x => exact absurd ⟨x, rfl⟩ hitem
    | buffer bs => exact absurd ⟨_, rfl⟩ hitem
    | view bs => exact absurd ⟨_, rfl⟩ hitem
    | _ => rfl

theorem ofValue_text (t : Text) :
    ofValue (.item (.text t)) =
      .ok (if t.isOpcodeName then .opcode t.upper else .literal (.text t)) := rfl

/-- **The opcodes are the texts that name one.** -/
theorem ofValue_eq_opcode_iff {v : Value} {name : Text} :
    ofValue v = .ok (.opcode name) ↔
      ∃ t : Text, v = .item (.text t) ∧ t.isOpcodeName = true ∧ t.upper = name := by
  constructor
  · intro h
    cases v with
    | item x =>
        cases x with
        | text t =>
            rw [ofValue_text] at h
            split at h
            · next hname =>
              cases h
              exact ⟨t, rfl, hname, rfl⟩
            · cases h
        | _ => cases h
    | _ => cases h
  · rintro ⟨t, rfl, hname, rfl⟩
    rw [ofValue_text, if_pos hname]

/-- A value is a literal exactly if it is an item and names no opcode. -/
theorem ofValue_eq_literal_iff {v : Value} {x : Item} :
    ofValue v = .ok (.literal x) ↔ v.toItem = .ok x ∧ v.isOpcodeName = false := by
  cases v with
  | item y =>
      cases y with
      | text t =>
          rw [ofValue_text, Value.isOpcodeName, Value.toItem]
          cases t.isOpcodeName <;> simp
      | _ => simp [ofValue, ofItem, Value.toItem, Value.isOpcodeName, Except.map]
  | _ => simp [ofValue, ofItem, Value.toItem, Value.isOpcodeName, Except.map]

/-- A value that names an opcode of conditionals is that opcode. -/
theorem ofValue_of_flow? {v : Value} {f : Flow} (h : v.flow? = some f) :
    ofValue v = .ok (.opcode f.name) := by
  cases v with
  | item x =>
      cases x with
      | text t =>
          have hname := Flow.ofName?_eq_some_iff.1 h
          exact ofValue_eq_opcode_iff.2 ⟨t, rfl, Text.isOpcodeName_of_flow h, hname.symm⟩
      | _ => cases h
  | _ => cases h

/-- A value names the opcode of conditionals that its instruction is. -/
theorem flow?_of_ofValue {v : Value} {i : Instruction} (h : ofValue v = .ok i) :
    i.flow? = v.flow? := by
  cases i with
  | literal x =>
      cases hv : v.flow? with
      | none => rfl
      | some f => cases h.symm.trans (ofValue_of_flow? hv)
  | opcode name =>
      obtain ⟨t, rfl, -, rfl⟩ := ofValue_eq_opcode_iff.1 h
      rfl

end Instruction

end ScriptTutor
