/-
**Blanks, and texts without them at their ends.**

Numbers are read from a text after the blanks around it are dropped, and typed input is stored
without them.  The blanks are the white-space characters of Unicode together with the four
information separators; zero-width characters are no blanks.

Main definitions:

* `ScriptTutor.CodePoint.isBlank` — the blanks;
* `ScriptTutor.Text.trim` — a text without the blanks at its two ends.

Main results:

* `ScriptTutor.Text.trim_eq_nil_iff` — nothing is left exactly of a text of blanks;
* `ScriptTutor.Text.trim_eq_self` — a text whose ends are no blanks is left alone;
* `ScriptTutor.Text.trim_trim` — one trim is enough.
-/

import ScriptTutor.Basic

set_option relaxedAutoImplicit false
set_option autoImplicit false

namespace ScriptTutor

/-- The blanks: tab to carriage return, the information separators, the space, the next-line
control, and the space, line and paragraph separators of Unicode. -/
def CodePoint.isBlank (c : CodePoint) : Bool :=
  (0x09 ≤ c.val && c.val ≤ 0x0D) || (0x1C ≤ c.val && c.val ≤ 0x20) || c.val == 0x85 ||
  c.val == 0xA0 || c.val == 0x1680 || (0x2000 ≤ c.val && c.val ≤ 0x200A) ||
  c.val == 0x2028 || c.val == 0x2029 || c.val == 0x202F || c.val == 0x205F || c.val == 0x3000

namespace Text

/-- The text without the blanks it starts with. -/
def trimLeft (t : Text) : Text := t.dropWhile CodePoint.isBlank

def trim (t : Text) : Text := (trimLeft (trimLeft t).reverse).reverse

theorem trimLeft_eq_nil_iff (t : Text) : trimLeft t = [] ↔ ∀ c ∈ t, c.isBlank = true := by
  induction t with
  | nil => simp [trimLeft]
  | cons c t ih =>
      by_cases hc : c.isBlank = true
      · have : trimLeft (c :: t) = trimLeft t := by
          rw [trimLeft, List.dropWhile_cons, if_pos hc]
          rfl
        rw [this, ih]
        simp [hc]
      · simp [trimLeft, hc]

/-- What is left starts with no blank. -/
theorem not_isBlank_of_trimLeft {t u : Text} {c : CodePoint} (h : trimLeft t = c :: u) :
    c.isBlank = false := by
  induction t with
  | nil => simp [trimLeft] at h
  | cons d t ih =>
      by_cases hd : d.isBlank = true
      · exact ih (by simpa [trimLeft, List.dropWhile_cons, hd] using h)
      · have hd' : d.isBlank = false := by simpa using hd
        rw [trimLeft, List.dropWhile_cons, if_neg hd] at h
        exact (List.cons.inj h).1 ▸ hd'

theorem trimLeft_eq_self {t : Text} (h : ∀ c u, t = c :: u → c.isBlank = false) :
    trimLeft t = t := by
  cases t with
  | nil => rfl
  | cons c u => simp [trimLeft, h c u rfl]

/-- **Nothing is left** exactly of a text of blanks. -/
theorem trim_eq_nil_iff (t : Text) : trim t = [] ↔ ∀ c ∈ t, c.isBlank = true := by
  rw [trim, List.reverse_eq_nil_iff, trimLeft_eq_nil_iff]
  constructor
  · intro h
    rw [← trimLeft_eq_nil_iff]
    cases ht : trimLeft t with
    | nil => rfl
    | cons c u =>
        have := h c (by simp [ht])
        rw [not_isBlank_of_trimLeft ht] at this
        exact absurd this (by simp)
  · intro h
    have : trimLeft t = [] := (trimLeft_eq_nil_iff t).2 h
    simp [this]

/-- A text whose two ends are no blanks is left alone. -/
theorem trim_eq_self {t : Text} (hl : ∀ c u, t = c :: u → c.isBlank = false)
    (hr : ∀ c u, t.reverse = c :: u → c.isBlank = false) : trim t = t := by
  rw [trim, trimLeft_eq_self hl, trimLeft_eq_self hr, List.reverse_reverse]

theorem exists_trimLeft_eq_trim_append (t : Text) : ∃ u, trimLeft t = trim t ++ u := by
  refine ⟨((trimLeft t).reverse.takeWhile CodePoint.isBlank).reverse, ?_⟩
  have h := List.takeWhile_append_dropWhile (p := CodePoint.isBlank) (l := (trimLeft t).reverse)
  have := congrArg List.reverse h
  rw [List.reverse_append, List.reverse_reverse] at this
  exact this.symm

/-- **One trim is enough.** -/
theorem trim_trim (t : Text) : trim (trim t) = trim t := by
  refine trim_eq_self ?_ ?_
  · intro c u h
    obtain ⟨v, hv⟩ := exists_trimLeft_eq_trim_append t
    exact not_isBlank_of_trimLeft (t := t) (u := u ++ v) (by rw [hv, h]; rfl)
  · intro c u h
    exact not_isBlank_of_trimLeft (t := (trimLeft t).reverse) (u := u)
      (by rw [← h, trim, List.reverse_reverse])

end Text

end ScriptTutor
