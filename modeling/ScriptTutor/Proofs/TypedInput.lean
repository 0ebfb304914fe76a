/-
**Typed input and numbers on the stack.**

A typed text is tried as a decimal numeral and then as a hexadecimal one; a text on the stack is
tried the other way round, and a numeral that is too long is a failure there, while a typed one
stays a text.  Still, both take the same texts for numbers, and for the same numbers.

Main results:

* `ScriptTutor.Item.ofTrimmed_eq` — **the order does not matter**: a typed text is what reading it
  as a numeral of either kind makes of it;
* `ScriptTutor.Value.typed_eq_number_iff`, `ScriptTutor.Value.typed_eq_none_iff`,
  `ScriptTutor.Value.typed_of_failure` — which typed texts are numbers, nothing, and texts;
* `ScriptTutor.Value.typed_agrees` — **typed input agrees with numbers on the stack**.
-/

import ScriptTutor.Value.Reading
import ScriptTutor.Proofs.Text.Grammar

set_option relaxedAutoImplicit false
set_option autoImplicit false

namespace ScriptTutor

/-- **The order does not matter** in which the two kinds of numerals are tried. -/
theorem Item.ofTrimmed_eq (t : Text) :
    ofTrimmed t = match Numeral.read t with
      | .number n => .number n
      | _ => .text t := by
  by_cases h : Numeral.readDecimal t = .absent
  · rw [ofTrimmed, Numeral.read, h]
    cases (afterHexMark? t).bind (naturalOf? 16) <;> rfl
  · rw [ofTrimmed, Numeral.read_eq_readDecimal h]
    cases hread : Numeral.readDecimal t with
    | number n => rfl
    | tooLong => rfl
    | absent => exact absurd hread h

namespace Value

theorem typed_text (t : Text) :
    typed (.item (.text t)) =
      .ok (if t.trim = [] then none else some (Item.ofTrimmed t.trim)) := rfl

/-- A typed text is nothing exactly if it has nothing but blanks. -/
theorem typed_eq_none_iff {t : Text} :
    typed (.item (.text t)) = .ok none ↔ ∀ c ∈ t, c.isBlank = true := by
  rw [typed_text, ← Text.trim_eq_nil_iff]
  split_ifs with h <;> simp [h]

/-- A typed text is a number exactly if it stands for that number on the stack. -/
theorem typed_eq_number_iff {t : Text} {n : Int} :
    typed (.item (.text t)) = .ok (some (.number n)) ↔ toNumber (.item (.text t)) = .ok n := by
  rw [toNumber_text_eq_ok_iff, ← Numeral.read_eq_number_iff, typed_text, Item.ofTrimmed_eq]
  by_cases h : t.trim = []
  · have hread : Numeral.read [] = .absent := rfl
    simp [h, hread]
  · cases Numeral.read t.trim <;> simp [h]

/-- Any other typed text that is something is a text, without the blanks at its two ends. -/
theorem typed_of_failure {t shown : Text} (hne : t.trim ≠ [])
    (h : toNumber (.item (.text t)) = .error (.failure (.notANumber shown))) :
    typed (.item (.text t)) = .ok (some (.text t.trim)) := by
  rw [typed_text, if_neg hne, Item.ofTrimmed_eq]
  cases hread : Numeral.read t.trim with
  | number n =>
      have hnumber := toNumber_text_eq_ok_iff.2 (Numeral.read_eq_number_iff.1 hread)
      cases h.symm.trans hnumber
  | tooLong => rfl
  | absent => rfl

/-- **Typed input agrees with numbers on the stack.**  A typed text is a number exactly if it stands
for that number on the stack, and nothing exactly if it has nothing but blanks.  In all other cases
it is the text without the blanks at its two ends; then it stands for no number on the stack, and
typing what is left gives the same text again. -/
theorem typed_agrees (t : Text) :
    (∀ n : Int, typed (.item (.text t)) = .ok (some (.number n)) ↔
        toNumber (.item (.text t)) = .ok n) ∧
      (typed (.item (.text t)) = .ok none ↔ ∀ c ∈ t, c.isBlank = true) ∧
      ((∃ n, typed (.item (.text t)) = .ok (some (.number n))) ∨
        typed (.item (.text t)) = .ok none ∨
        (typed (.item (.text t)) = .ok (some (.text t.trim)) ∧
          (∃ shown, toNumber (.item (.text t)) = .error (.failure (.notANumber shown))) ∧
          typed (.item (.text t.trim)) = .ok (some (.text t.trim)))) := by
  refine ⟨fun _ => typed_eq_number_iff, typed_eq_none_iff, ?_⟩
  by_cases hblank : t.trim = []
  · exact .inr (.inl (typed_eq_none_iff.2 ((Text.trim_eq_nil_iff t).1 hblank)))
  · obtain ⟨n, hn⟩ | ⟨shown, hshown⟩ := toNumber_text_cases t
    · exact .inl ⟨n, typed_eq_number_iff.2 hn⟩
    · have htyped := typed_of_failure hblank hshown
      refine .inr (.inr ⟨htyped, ⟨shown, hshown⟩, ?_⟩)
      rw [typed_text, Text.trim_trim, ← typed_text, htyped]

end Value

end ScriptTutor
