/-
**Programs that name their opcodes in another letter case.**

The capitals of a name decide whether a text names an opcode, which opcode that is, what the trace
calls it, and whether the catalog disables it.  So a program runs in the same way, to the last word
of its report, however its opcodes are spelled.  That is so for names that nothing stands behind,
too, and for letters of any alphabet.

Main definition:

* `ScriptTutor.Value.Respelled` — a value is another one, with the name of its opcode in capitals or
  with ASCII letters in another case.

Main results:

* `ScriptTutor.Instruction.ofValue_eq_of_upper_eq` — names with the same capitals are the same
  instruction;
* `ScriptTutor.Machine.run_congr` — a run depends on the instructions only;
* `ScriptTutor.Engine.execute_respelled` — **a program may spell its opcodes in any letter case**.
-/

import ScriptTutor.Proofs.Machine.Passes
import ScriptTutor.Proofs.Text.Capitals

set_option relaxedAutoImplicit false
set_option autoImplicit false

namespace ScriptTutor

/-! ### Names with the same capitals -/

theorem Instruction.ofValue_eq_of_upper_eq {t u : Text} (ht : t.isOpcodeName = true)
    (h : t.upper = u.upper) : ofValue (.item (.text t)) = ofValue (.item (.text u)) := by
  have hu : u.isOpcodeName = true := by rwa [Text.isOpcodeName, ← h]
  rw [ofValue_text, ofValue_text, if_pos ht, if_pos hu, h]

namespace Value

/-- The second value is the first one, or else the name of the opcode that the first one names: in
capitals, or with some ASCII letters in the other case. -/
inductive Respelled : Value → Value → Prop where
  | same (v : Value) : Respelled v v
  | capitals {t : Text} : t.isOpcodeName = true →
      Respelled (.item (.text t)) (.item (.text t.upper))
  | letters {t u : Text} : t.isOpcodeName = true → t.SameLetters u →
      Respelled (.item (.text t)) (.item (.text u))

theorem Respelled.ofValue_eq {v w : Value} (h : v.Respelled w) :
    Instruction.ofValue v = Instruction.ofValue w := by
  cases h with
  | same => rfl
  | capitals ht => exact Instruction.ofValue_eq_of_upper_eq ht (Text.upper_upper _).symm
  | letters ht hletters => exact Instruction.ofValue_eq_of_upper_eq ht hletters.upper_eq

end Value

/-! ### Programs with the same instructions -/

/-- A run depends on the instructions only that the values are. -/
theorem Machine.run_congr {p q : List Value}
    (h : List.Forall₂ (fun v w => Instruction.ofValue v = Instruction.ofValue w) p q)
    (m : Machine) : run p m = run q m := by
  induction h generalizing m with
  | nil => rfl
  | cons hvw _ ih => simp only [run, step, hvw, ih]

/-- **A program may spell its opcodes in any letter case.**  The report is the same in all its
parts, and so is the engine afterwards. -/
theorem Engine.execute_respelled {p q : List Value} (hp : ∀ v ∈ p, v.IsItem)
    (h : List.Forall₂ Value.Respelled p q) (e e' : Engine) :
    ∃ r f, e.execute (.list p) = (.ok r, f) ∧ e'.execute (.list q) = (.ok r, f) := by
  obtain ⟨r, f, hr⟩ := exists_report_of_isItem hp
  have hrun := Machine.run_congr (h.imp fun _ _ => Value.Respelled.ofValue_eq) Machine.start
  refine ⟨r, f, hr, ?_⟩
  rw [execute_list, executeList, ← hrun]
  exact hr

/-- Two opcodes, and a name that nothing stands behind, in several spellings. -/
theorem Engine.execute_respelled_unknown :
    ∃ r f,
      fresh.execute (.list [.item (.number 4), .item (.text "op_dup"), .item (.text "Op_Add"),
        .item (.text "op_maß")]) = (.ok r, f) ∧
      fresh.execute (.list [.item (.number 4), .item (.text "OP_dup"), .item (.text "OP_ADD"),
        .item (.text "OP_MASS")]) = (.ok r, f) := by
  have hcapitals : Value.Respelled (.item (.text "op_maß")) (.item (.text "OP_MASS")) := by
    have hupper : ("op_maß" : Text).upper = "OP_MASS" := by decide +kernel
    rw [← hupper]
    exact .capitals (by decide +kernel)
  exact execute_respelled (by simp [Value.IsItem, Value.toItem])
    (.cons (.same _) (.cons (.letters (by decide +kernel) (by decide))
      (.cons (.letters (by decide +kernel) (by decide)) (.cons hcapitals .nil)))) fresh fresh

end ScriptTutor
