/-
**Digits and what they denote.**

A digit is a figure, or one of the first letters of the alphabet in either case.  Digits one after
the other denote a number, the first of them counting most; two at a time, hexadecimal digits denote
bytes.  Letter case is all that a text of digits has beyond the values of its digits.

Main definitions:

* `ScriptTutor.CodePoint.IsDigit`, `ScriptTutor.CodePoint.IsHexDigit` — the digits of a base;
* `ScriptTutor.Text.Spells` — a text of digits and the number that they denote.

Main results:

* `ScriptTutor.naturalOf?_eq_some_iff` — **reading digits gives the number that they denote**;
* `ScriptTutor.Bytes.ofHex?_eq_some_iff`, `ScriptTutor.Bytes.isSome_ofHex?_iff` — which texts denote
  bytes, and which;
* `ScriptTutor.Text.upper_eq_upper_iff` — digits have the same values exactly if they agree up to
  letter case.
-/

import Mathlib.Data.List.Forall2
import Mathlib.Data.Nat.Digits.Defs
import ScriptTutor.Bytes
import ScriptTutor.Text.LetterCase

set_option relaxedAutoImplicit false
set_option autoImplicit false

namespace ScriptTutor

/-! ### Digits -/

namespace CodePoint

/-- A code point is the digit of the value `d` in base `b`; a letter is one in either case. -/
def IsDigit (b : Nat) (c : CodePoint) (d : Nat) : Prop :=
  d < b ∧ (c = ofChar (Nat.digitChar d) ∨ c = ofChar (Nat.digitChar d).toUpper)

/-- A code point is a hexadecimal digit. -/
def IsHexDigit (c : CodePoint) : Prop := ∃ d, c.IsDigit 16 d

end CodePoint

theorem lt_of_digit? {c : CodePoint} {d : Nat} (h : digit? c = some d) : c.val < 0x80 := by
  simp only [digit?] at h
  split_ifs at h <;> omega

theorem digit?_eq_some_iff {c : CodePoint} {d : Nat} : digit? c = some d ↔ c.IsDigit 16 d := by
  constructor
  · intro h
    -- digits are ASCII, so that a look at ASCII is enough
    have hascii : ∀ k : Fin 0x80, ∀ d ∈ digit? (k.castLE (by decide)), d < 16 ∧
        (k.castLE (by decide) = CodePoint.ofChar (Nat.digitChar d) ∨
          k.castLE (by decide) = CodePoint.ofChar (Nat.digitChar d).toUpper) := by
      decide
    exact hascii ⟨c.val, lt_of_digit? h⟩ d h
  · have hvalue : ∀ d, d < 16 → digit? (CodePoint.ofChar (Nat.digitChar d)) = some d ∧
        digit? (CodePoint.ofChar (Nat.digitChar d).toUpper) = some d := by
      decide
    rintro ⟨hd, rfl | rfl⟩
    · exact (hvalue d hd).1
    · exact (hvalue d hd).2

theorem digitValue?_eq_some_iff {b : Nat} (hb : b ≤ 16) {c : CodePoint} {d : Nat} :
    digitValue? b c = some d ↔ c.IsDigit b d := by
  rw [digitValue?, Option.filter_eq_some_iff, digit?_eq_some_iff, CodePoint.IsDigit,
    CodePoint.IsDigit, decide_eq_true_eq]
  constructor
  · rintro ⟨⟨-, hc⟩, hd⟩
    exact ⟨hd, hc⟩
  · rintro ⟨hd, hc⟩
    exact ⟨⟨Nat.lt_of_lt_of_le hd hb, hc⟩, hd⟩

theorem afterHexMark?_eq_some_iff {t u : Text} :
    afterHexMark? t = some u ↔
      ∃ mark : CodePoint, (mark = 'x' ∨ mark = 'X') ∧ t = ('0' : CodePoint) :: mark :: u := by
  constructor
  · intro h
    match t, h with
    | zero :: mark :: rest, h =>
      rw [afterHexMark?] at h
      split_ifs at h with hmark
      cases h
      exact ⟨mark, hmark.2, by rw [hmark.1]⟩
  · rintro ⟨mark, hmark, rfl⟩
    exact if_pos ⟨rfl, hmark⟩

/-! ### Numbers -/

/-- A text of digits in base `b` that denote `n`; the first digit counts most. -/
def Text.Spells (b : Nat) (t : Text) (n : Nat) : Prop :=
  ∃ ds : List Nat, List.Forall₂ (CodePoint.IsDigit b) t ds ∧ Nat.ofDigits b ds.reverse = n

theorem Text.Spells.exists_isDigit {b n : Nat} {t : Text} (h : t.Spells b n) :
    ∀ c ∈ t, ∃ d, c.IsDigit b d := by
  obtain ⟨ds, hds, -⟩ := h
  induction hds with
  | nil => simp
  | cons hd _ ih => exact List.forall_mem_cons.2 ⟨⟨_, hd⟩, ih⟩

section

variable {b : Nat} (hb : b ≤ 16)
include hb

/-- What was read before counts as much more as digits follow. -/
theorem readDigits_eq_some_iff {m n : Nat} {t : Text} :
    readDigits b m t = some n ↔ ∃ ds : List Nat, List.Forall₂ (CodePoint.IsDigit b) t ds ∧
      m * b ^ ds.length + Nat.ofDigits b ds.reverse = n := by
  induction t generalizing m with
  | nil => simp [readDigits]
  | cons c t ih =>
      cases hc : digitValue? b c with
      | none =>
          have hnot : ∀ d, ¬ c.IsDigit b d := by
            intro d hd
            rw [(digitValue?_eq_some_iff hb).2 hd] at hc
            cases hc
          simp [readDigits, hc, List.forall₂_cons_left_iff, hnot]
      | some d =>
          have hd : c.IsDigit b d := (digitValue?_eq_some_iff hb).1 hc
          -- the first digit has one value only, so that both sides go on with the other digits
          have hunique : ∀ e, c.IsDigit b e ↔ e = d := by
            intro e
            rw [← digitValue?_eq_some_iff hb, hc, Option.some.injEq, eq_comm]
          rw [readDigits, hc]
          simp only [ih, List.forall₂_cons_left_iff, hunique]
          constructor
          · rintro ⟨ds, hds, hn⟩
            refine ⟨d :: ds, ⟨d, ds, rfl, hds, rfl⟩, ?_⟩
            rw [← hn, List.length_cons, Nat.ofDigits_reverse_cons]
            ring
          · rintro ⟨_, ⟨_, ds, rfl, hds, rfl⟩, hn⟩
            refine ⟨ds, hds, ?_⟩
            rw [← hn, List.length_cons, Nat.ofDigits_reverse_cons]
            ring

/-- **Reading digits gives the number that they denote.** -/
theorem naturalOf?_eq_some_iff {t : Text} {n : Nat} :
    naturalOf? b t = some n ↔ t ≠ [] ∧ t.Spells b n := by
  rw [naturalOf?]
  split_ifs with h
  · simp [h]
  · simp [h, readDigits_eq_some_iff hb, Text.Spells]

theorem naturalOf?_eq_none {t : Text} {c : CodePoint} (hmem : c ∈ t)
    (hc : digitValue? b c = none) : naturalOf? b t = none := by
  rw [Option.eq_none_iff_forall_ne_some]
  intro n hn
  obtain ⟨d, hd⟩ := ((naturalOf?_eq_some_iff hb).1 hn).2.exists_isDigit c hmem
  rw [(digitValue?_eq_some_iff hb).2 hd] at hc
  cases hc

end

/-! ### Bytes -/

theorem isSome_digitValue?_iff {c : CodePoint} :
    (digitValue? 16 c).isSome = true ↔ c.IsHexDigit := by
  simp only [Option.isSome_iff_exists, digitValue?_eq_some_iff (Nat.le_refl 16),
    CodePoint.IsHexDigit]

/-- A digit below sixteen has the same value in base sixteen. -/
theorem digit?_of_digitValue? {b d : Nat} {c : CodePoint} (h : digitValue? b c = some d) :
    digit? c = some d := (Option.filter_eq_some_iff.1 h).1

namespace Bytes

theorem map_digit?_of_ofHex? : ∀ {t : Text} {bs : Bytes}, ofHex? t = some bs →
    t.map digit? = bs.toHex.map digit?
  | [], _, h => by
      cases h
      rfl
  | [_], _, h => by cases h
  | hi :: lo :: t, bs, h => by
      rw [ofHex?] at h
      split at h
      · next x y rest hx hy hrest =>
        cases h
        have hxlt : x < 16 := ((digitValue?_eq_some_iff (Nat.le_refl 16)).1 hx).1
        have hylt : y < 16 := ((digitValue?_eq_some_iff (Nat.le_refl 16)).1 hy).1
        rw [toHex, UInt8.toNat_ofNat_of_lt' (show _ < 0x100 by omega),
          show (16 * x + y) / 16 = x by omega, show (16 * x + y) % 16 = y by omega]
        simp only [List.map_cons, map_digit?_of_ofHex? hrest, digit?_of_digitValue? hx,
          digit?_of_digitValue? hy, digit?_of_digitValue? (digitValue?_hexDigit x hxlt),
          digit?_of_digitValue? (digitValue?_hexDigit y hylt)]
      · cases h

/-- Digits **denote the bytes** that are written with digits of the same values. -/
theorem ofHex?_eq_some_iff {t : Text} {bs : Bytes} :
    ofHex? t = some bs ↔ t.map digit? = bs.toHex.map digit? := by
  constructor
  · exact map_digit?_of_ofHex?
  · intro h
    rw [ofHex?_congr h, ofHex?_toHex]

theorem isSome_ofHex?_cons (hi lo : CodePoint) (t : Text) :
    (ofHex? (hi :: lo :: t)).isSome =
      ((digitValue? 16 hi).isSome && ((digitValue? 16 lo).isSome && (ofHex? t).isSome)) := by
  rw [ofHex?]
  cases digitValue? 16 hi <;> cases digitValue? 16 lo <;> cases ofHex? t <;> rfl

/-- A text denotes bytes exactly if it has an even number of hexadecimal digits and nothing else. -/
theorem isSome_ofHex?_iff : ∀ {t : Text},
    (ofHex? t).isSome = true ↔ t.length % 2 = 0 ∧ ∀ c ∈ t, c.IsHexDigit
  | [] => by simp [ofHex?]
  | [_] => by simp [ofHex?]
  | hi :: lo :: t => by
      rw [isSome_ofHex?_cons, Bool.and_eq_true, Bool.and_eq_true, isSome_digitValue?_iff,
        isSome_digitValue?_iff, isSome_ofHex?_iff, List.forall_mem_cons, List.forall_mem_cons,
        List.length_cons, List.length_cons, Nat.add_assoc, Nat.add_mod_right]
      constructor
      · rintro ⟨hhi, hlo, hlen, hall⟩
        exact ⟨hlen, hhi, hlo, hall⟩
      · rintro ⟨hlen, hhi, hlo, hall⟩
        exact ⟨hhi, hlo, hlen, hall⟩

end Bytes

/-! ### Letter case -/

/-- A digit in capitals is the capital of the digit that its value is written with, and has the same
value. -/
theorem CodePoint.capital_of_digit? {c : CodePoint} {d : Nat} (h : digit? c = some d) :
    c.capital = (Bytes.hexDigit d).capital ∧ c.capital.map digit? = [some d] := by
  have hascii : ∀ k : Fin 0x80, ∀ d ∈ digit? (k.castLE (by decide)),
      CodePoint.capital (k.castLE (by decide)) = (Bytes.hexDigit d).capital ∧
        (CodePoint.capital (k.castLE (by decide))).map digit? = [some d] := by
    decide
  exact hascii ⟨c.val, lt_of_digit? h⟩ d h

namespace Text

theorem map_digit?_upper {t : Text} (h : ∀ c ∈ t, c.IsHexDigit) :
    t.upper.map digit? = t.map digit? := by
  induction t with
  | nil => rfl
  | cons c t ih =>
      obtain ⟨⟨d, hd⟩, ht⟩ := List.forall_mem_cons.1 h
      have hc : digit? c = some d := digit?_eq_some_iff.2 hd
      rw [upper_cons, List.map_append, (CodePoint.capital_of_digit? hc).2, ih ht, List.map_cons, hc]
      rfl

/-- The values of digits say what the digits are in capitals. -/
theorem upper_eq_flatMap {t : Text} (h : ∀ c ∈ t, c.IsHexDigit) :
    t.upper = (t.map digit?).flatMap fun o => o.elim [] fun d => (Bytes.hexDigit d).capital := by
  rw [List.flatMap_map]
  refine List.flatMap_congr ?_
  intro c hc
  obtain ⟨d, hd⟩ := h c hc
  have hvalue : digit? c = some d := digit?_eq_some_iff.2 hd
  rw [hvalue, (CodePoint.capital_of_digit? hvalue).1]
  rfl

/-- Digits **have the same values** exactly if they agree up to letter case. -/
theorem upper_eq_upper_iff {s t : Text} (hs : ∀ c ∈ s, c.IsHexDigit)
    (ht : ∀ c ∈ t, c.IsHexDigit) : s.upper = t.upper ↔ s.map digit? = t.map digit? := by
  constructor
  · intro h
    rw [← map_digit?_upper hs, h, map_digit?_upper ht]
  · intro h
    rw [upper_eq_flatMap hs, h, upper_eq_flatMap ht]

end Text

end ScriptTutor
