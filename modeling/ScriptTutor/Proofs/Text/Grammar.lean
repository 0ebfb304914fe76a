/-
**The grammar of numerals.**

A numeral is the mark `0x` with hexadecimal digits behind it, or an optional sign with at most
`digitLimit` decimal digits behind it.  A text stands for a number exactly if it is a numeral,
blanks around it aside, and the number is the one that the digits denote.  No text is a numeral of
both kinds, so that it does not matter which kind is tried first.

Main definitions:

* `ScriptTutor.Text.IsCoreOf` — what is left of a text without the blanks at its two ends;
* `ScriptTutor.Numeral.Denotes` — **the grammar**: a numeral and the number that it denotes.

Main results:

* `ScriptTutor.Text.isCoreOf_trim` — trimming takes the blanks at the two ends away, nothing else;
* `ScriptTutor.Numeral.read_eq_number_iff` — **reading follows the grammar**;
* `ScriptTutor.Numeral.read_eq_readDecimal` — no text is a numeral of both kinds;
* `ScriptTutor.Value.toNumber_follows_grammar` — **the numbers that texts stand for**.
-/

import Mathlib.Data.List.TakeWhile
import ScriptTutor.Proofs.Text.Digits
import ScriptTutor.Value.Reading

set_option relaxedAutoImplicit false
set_option autoImplicit false

namespace ScriptTutor

/-! ### The blanks around a text -/

namespace Text

/-- The text `u` is what is left of `t` without the blanks at its two ends. -/
structure IsCoreOf (u t : Text) : Prop where
  parts : ∃ l r, t = l ++ u ++ r ∧ (∀ c ∈ l, c.isBlank = true) ∧ ∀ c ∈ r, c.isBlank = true
  head : ∀ c ∈ u.head?, c.isBlank = false
  last : ∀ c ∈ u.getLast?, c.isBlank = false

theorem exists_eq_append_trimLeft (t : Text) :
    ∃ l, t = l ++ trimLeft t ∧ ∀ c ∈ l, c.isBlank = true :=
  ⟨t.takeWhile CodePoint.isBlank, List.takeWhile_append_dropWhile.symm,
    fun _ hc => List.mem_takeWhile_imp hc⟩

/-- **Trimming** takes the blanks at the two ends away, and nothing else. -/
theorem isCoreOf_trim (t : Text) : t.trim.IsCoreOf t where
  parts := by
    obtain ⟨l, hl, hlblank⟩ := exists_eq_append_trimLeft t
    obtain ⟨r, hr, hrblank⟩ := exists_eq_append_trimLeft (trimLeft t).reverse
    have hmid : trimLeft t = trim t ++ r.reverse := by
      rw [trim, ← List.reverse_append, ← hr, List.reverse_reverse]
    refine ⟨l, r.reverse, ?_, hlblank, fun c hc => hrblank c (List.mem_reverse.1 hc)⟩
    rw [List.append_assoc, ← hmid, ← hl]
  head := by
    intro c hc
    obtain ⟨u, hu⟩ := List.head?_eq_some_iff.1 hc
    obtain ⟨v, hv⟩ := exists_trimLeft_eq_trim_append t
    exact not_isBlank_of_trimLeft (t := t) (u := u ++ v) (by rw [hv, hu]; rfl)
  last := by
    intro c hc
    rw [trim, List.getLast?_reverse] at hc
    obtain ⟨u, hu⟩ := List.head?_eq_some_iff.1 hc
    exact not_isBlank_of_trimLeft hu

theorem trim_of_no_blank {t : Text} (h : ∀ c ∈ t, c.isBlank = false) : t.trim = t := by
  refine trim_eq_self ?_ ?_
  · intro c u ht
    exact h c (by rw [ht]; exact List.mem_cons_self)
  · intro c u ht
    exact h c (List.mem_reverse.1 (by rw [ht]; exact List.mem_cons_self))

end Text

/-! ### The grammar -/

namespace Numeral

/-- **The grammar** of numerals: a numeral, and the number that it denotes. -/
inductive Denotes : Text → Int → Prop
  /-- Behind the mark stand one or more hexadecimal digits. -/
  | hexadecimal {mark : CodePoint} {digits : Text} {n : Nat} :
      mark = 'x' ∨ mark = 'X' → digits ≠ [] → digits.Spells 16 n →
      Denotes (('0' : CodePoint) :: mark :: digits) n
  /-- Behind an optional sign stand decimal digits, one or more, but not too many. -/
  | decimal {sign digits : Text} {n : Nat} :
      sign ∈ (["", "+", "-"] : List Text) → digits ≠ [] → digits.length ≤ digitLimit →
      digits.Spells 10 n →
      Denotes (sign ++ digits) (if sign = "-" then -(n : Int) else n)

/-! ### Decimal numerals -/

theorem splitSign_append {sign t : Text} (hsign : sign ∈ (["", "+", "-"] : List Text))
    (ht : ∀ c ∈ t.head?, c ≠ '-' ∧ c ≠ '+') : splitSign (sign ++ t) = (decide (sign = "-"), t) := by
  simp only [List.mem_cons, List.not_mem_nil, or_false] at hsign
  rcases hsign with rfl | rfl | rfl
  · cases t with
    | nil => rfl
    | cons c t =>
        obtain ⟨hminus, hplus⟩ := ht c rfl
        show splitSign (c :: t) = _
        rw [splitSign, if_neg hminus, if_neg hplus]
        rfl
  · rfl
  · rfl

theorem exists_sign (t : Text) : ∃ sign ∈ (["", "+", "-"] : List Text),
    t = sign ++ (splitSign t).2 ∧ (splitSign t).1 = decide (sign = "-") := by
  cases t with
  | nil => exact ⟨"", by simp, rfl, rfl⟩
  | cons c t =>
      rw [splitSign]
      split_ifs with hminus hplus
      · exact ⟨"-", by simp, by rw [hminus]; rfl, rfl⟩
      · exact ⟨"+", by simp, by rw [hplus]; rfl, rfl⟩
      · exact ⟨"", by simp, rfl, rfl⟩

theorem readDecimal_eq_number_iff {t : Text} {n : Int} :
    readDecimal t = .number n ↔ (splitSign t).2.length ≤ digitLimit ∧
      ∃ m, naturalOf? 10 (splitSign t).2 = some m ∧ signed (splitSign t).1 m = n := by
  rcases h : splitSign t with ⟨negative, digits⟩
  simp only [readDecimal, h]
  split_ifs with hlen hall
  · cases hread : naturalOf? 10 digits <;> simp [hlen]
  · simp [hlen]
  · simp [hlen]

/-- Behind its sign, a decimal numeral has nothing but decimal digits. -/
theorem readDecimal_eq_absent {t : Text} {c : CodePoint} (hmem : c ∈ (splitSign t).2)
    (hc : digitValue? 10 c = none) : readDecimal t = .absent := by
  rcases h : splitSign t with ⟨negative, digits⟩
  rw [h] at hmem
  simp only [readDecimal, h]
  split_ifs with hlen hall
  · rw [naturalOf?_eq_none (by decide) hmem hc]
  · have hsome := List.all_eq_true.1 hall c hmem
    rw [hc] at hsome
    cases hsome
  · rfl

/-- What stands behind the mark is no decimal numeral, because of the mark. -/
theorem readDecimal_of_afterHexMark? {t u : Text} (h : afterHexMark? t = some u) :
    readDecimal t = .absent := by
  obtain ⟨mark, hmark, rfl⟩ := afterHexMark?_eq_some_iff.1 h
  have hnodigit : digitValue? 10 mark = none := by
    rcases hmark with rfl | rfl <;> rfl
  exact readDecimal_eq_absent (List.mem_cons_of_mem _ List.mem_cons_self) hnodigit

/-! ### Reading -/

/-- A text that may be a decimal numeral is read as one. -/
theorem read_eq_readDecimal {t : Text} (h : readDecimal t ≠ .absent) : read t = readDecimal t := by
  have hmark : afterHexMark? t = none := by
    rw [Option.eq_none_iff_forall_ne_some]
    intro u hu
    exact h (readDecimal_of_afterHexMark? hu)
  rw [read, hmark]
  rfl

/-- **Reading follows the grammar.** -/
theorem read_eq_number_iff {t : Text} {n : Int} : read t = .number n ↔ Denotes t n := by
  constructor
  · intro h
    rw [read] at h
    split at h
    · next m hm =>
      cases h
      obtain ⟨digits, hmark, hdigits⟩ := Option.bind_eq_some_iff.1 hm
      obtain ⟨mark, hx, rfl⟩ := afterHexMark?_eq_some_iff.1 hmark
      obtain ⟨hne, hspells⟩ := (naturalOf?_eq_some_iff (by decide)).1 hdigits
      exact .hexadecimal hx hne hspells
    · obtain ⟨hlen, m, hm, rfl⟩ := readDecimal_eq_number_iff.1 h
      obtain ⟨hne, hspells⟩ := (naturalOf?_eq_some_iff (by decide)).1 hm
      obtain ⟨sign, hsign, ht, hnegative⟩ := exists_sign t
      have hdenotes := Denotes.decimal hsign hne hlen hspells
      rw [← ht] at hdenotes
      simpa [signed, hnegative] using hdenotes
  · intro h
    cases h with
    | hexadecimal hx hne hspells =>
        rw [read, afterHexMark?_eq_some_iff.2 ⟨_, hx, rfl⟩, Option.bind_some,
          (naturalOf?_eq_some_iff (by decide)).2 ⟨hne, hspells⟩]
    | @decimal sign digits n hsign hne hlen hspells =>
        -- a sign is no digit, so that only the sign in front is split off
        have hhead : ∀ c ∈ digits.head?, c ≠ '-' ∧ c ≠ '+' := by
          intro c hc
          obtain ⟨d, hd⟩ := hspells.exists_isDigit c (List.mem_of_mem_head? hc)
          have hvalue := (digitValue?_eq_some_iff (by decide)).2 hd
          constructor
          · rintro rfl
            cases hvalue
          · rintro rfl
            cases hvalue
        have hsplit := splitSign_append hsign hhead
        have hread : readDecimal (sign ++ digits) =
            .number (if sign = "-" then -(n : Int) else n) := by
          rw [readDecimal_eq_number_iff, hsplit]
          refine ⟨hlen, n, (naturalOf?_eq_some_iff (by decide)).2 ⟨hne, hspells⟩, ?_⟩
          simp [signed]
        rw [read_eq_readDecimal (by rw [hread]; exact nofun), hread]

end Numeral

/-! ### The number that a text stands for -/

namespace Value

theorem toNumber_text_eq_ok_iff {t : Text} {n : Int} :
    toNumber (.item (.text t)) = .ok n ↔ Numeral.Denotes t.trim n := by
  rw [← Numeral.read_eq_number_iff, toNumber, Item.toNumber]
  cases Numeral.read t.trim <;> simp

/-- A text stands for a number, or a failure says that it does not. -/
theorem toNumber_text_cases (t : Text) :
    (∃ n, toNumber (.item (.text t)) = .ok n) ∨
      ∃ shown, toNumber (.item (.text t)) = .error (.failure (.notANumber shown)) := by
  rw [toNumber, Item.toNumber]
  cases Numeral.read t.trim with
  | number n => exact .inl ⟨n, rfl⟩
  | tooLong => exact .inr ⟨_, rfl⟩
  | absent => exact .inr ⟨_, rfl⟩

theorem toNumber_text_eq_error_iff {t : Text} :
    (∃ shown, toNumber (.item (.text t)) = .error (.failure (.notANumber shown))) ↔
      ¬ ∃ n, Numeral.Denotes t.trim n := by
  simp only [← toNumber_text_eq_ok_iff]
  constructor
  · rintro ⟨shown, hshown⟩ ⟨n, hn⟩
    cases hshown.symm.trans hn
  · intro hnot
    exact (toNumber_text_cases t).resolve_left hnot

/-- **The numbers that texts stand for.**  Without the blanks at its two ends, a text stands for a
number exactly if the grammar derives it, and for the number that it denotes there.  Any other text
leads to one failure, which says that it is no number: a numeral that is too long, too. -/
theorem toNumber_follows_grammar (t : Text) :
    t.trim.IsCoreOf t ∧
      (∀ n : Int, toNumber (.item (.text t)) = .ok n ↔ Numeral.Denotes t.trim n) ∧
      ((∃ shown, toNumber (.item (.text t)) = .error (.failure (.notANumber shown))) ↔
        ¬ ∃ n : Int, Numeral.Denotes t.trim n) :=
  ⟨t.isCoreOf_trim, fun _ => toNumber_text_eq_ok_iff, toNumber_text_eq_error_iff⟩

/-- Blanks around a numeral and zeros in front of its digits do not matter. -/
example : toNumber (.item (.text "\t-0042 ")) = .ok (-42) := by
  decide

end Value

end ScriptTutor
