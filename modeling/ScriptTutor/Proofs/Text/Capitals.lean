/-
**Capitals are their own capitals.**

Capitals may be taken a second time, and nothing changes: no code point that the capital of a letter
consists of is a letter with another capital.  The letters of the table are too many to be compared
with the capitals one by one.  So both are written as the bits of a number each, and the two numbers
have no bit in common.

Main definitions:

* `ScriptTutor.LetterCase.rows`, `ScriptTutor.LetterCase.letters`, `ScriptTutor.LetterCase.capitals`
  — the letters with their capitals, the letters alone, and the code points of their capitals;
* `ScriptTutor.Text.SameLetters` — two texts differ at most in the case of ASCII letters.

Main results:

* `ScriptTutor.LetterCase.not_mem_letters` — **no capital is a letter**;
* `ScriptTutor.Text.upper_upper` — capitals taken a second time **stay as they are**;
* `ScriptTutor.Text.SameLetters.upper_eq` — texts with the same letters have the same capitals.
-/

import Mathlib.Data.List.Forall2
import ScriptTutor.Text.LetterCase

set_option relaxedAutoImplicit false
set_option autoImplicit false

namespace ScriptTutor

/-! ### Letters and capitals -/

namespace LetterCase

/-- The letters of a run with their capitals. -/
def Run.rows (r : Run) : List (Nat × List Nat) :=
  (List.range ((r.last - r.first) / r.step + 1)).map fun k =>
    (r.first + k * r.step, [r.capital + k * r.step])

/-- All letters with their capitals. -/
def rows : List (Nat × List Nat) :=
  (List.range 26).map (fun k => (97 + k, [65 + k])) ++ expansions ++ runs.flatMap Run.rows

/-- The letters that have a capital. -/
def letters : List Nat := rows.map (·.1)

/-- The code points of the capitals of letters. -/
def capitals : List CodePoint := (rows.flatMap (·.2)).map (Fin.ofNat _)

theorem Run.mem_rows {r : Run} {c d : Nat} (h : r.capital? c = some d) : (c, [d]) ∈ r.rows := by
  unfold Run.capital? at h
  split at h
  · next hc =>
    obtain ⟨hfirst, hlast, hstep⟩ := hc
    cases h
    -- the row is the one at the position of the letter in the run
    have hk : (c - r.first) / r.step < (r.last - r.first) / r.step + 1 :=
      Nat.lt_succ_of_le (Nat.div_le_div_right (Nat.sub_le_sub_right hlast r.first))
    refine List.mem_map.2 ⟨_, List.mem_range.2 hk, ?_⟩
    rw [Nat.div_mul_cancel (Nat.dvd_of_mod_eq_zero hstep), Nat.add_sub_cancel' hfirst]
  · cases h

/-- The bits of the number at the positions in the list are set. -/
def bits (l : List Nat) : Nat := l.foldr (fun c b => b ||| 1 <<< c) 0

theorem testBit_bits {l : List Nat} {c : Nat} : (bits l).testBit c = true ↔ c ∈ l := by
  induction l with
  | nil => simp [bits]
  | cons d l ih =>
      have hcons : bits (d :: l) = bits l ||| 1 <<< d := rfl
      rw [hcons, Nat.testBit_or, Bool.or_eq_true, ih, Nat.one_shiftLeft, Nat.testBit_two_pow,
        decide_eq_true_eq, List.mem_cons, or_comm, eq_comm]

theorem bits_letters_capitals : bits letters &&& bits (capitals.map Fin.val) = 0 := by
  decide +kernel

/-- **No capital is a letter.** -/
theorem not_mem_letters {c : CodePoint} (h : c ∈ capitals) : c.val ∉ letters := by
  intro hletter
  have hcapital : c.val ∈ capitals.map Fin.val := List.mem_map_of_mem h
  have hbit : (bits letters &&& bits (capitals.map Fin.val)).testBit c.val = true := by
    rw [Nat.testBit_and, testBit_bits.2 hletter, testBit_bits.2 hcapital, Bool.and_self]
  rw [bits_letters_capitals, Nat.zero_testBit] at hbit
  cases hbit

end LetterCase

namespace CodePoint

open LetterCase

theorem capital_cases (c : CodePoint) :
    (∃ t, (c.val, t) ∈ rows ∧ c.capital = t.map (Fin.ofNat _)) ∨ c.capital = [c] := by
  unfold capital
  split
  · split
    · next hletter =>
      refine .inl ⟨[c.val - 32], ?_, ?_⟩
      · have hk : c.val - 97 ∈ List.range 26 := List.mem_range.2 (by omega)
        refine List.mem_append_left _ (List.mem_append_left _ (List.mem_map.2 ⟨_, hk, ?_⟩))
        rw [show 97 + (c.val - 97) = c.val by omega, show 65 + (c.val - 97) = c.val - 32 by omega]
      · have hval : (c - 32).val = c.val - 32 := Fin.sub_val_of_le (by omega)
        rw [← hval, List.map_singleton, Fin.ofNat_val_eq_self]
    · exact .inr rfl
  · split
    · next t ht =>
      obtain ⟨l, l', hsplit, -⟩ := List.lookup_eq_some_iff.1 ht
      have hmem : (c.val, t) ∈ expansions := by
        rw [hsplit]
        exact List.mem_append_right l List.mem_cons_self
      exact .inl ⟨t, List.mem_append_left _ (List.mem_append_right _ hmem), rfl⟩
    · split
      · next d hd =>
        obtain ⟨r, hr, hrd⟩ := List.exists_of_findSome?_eq_some hd
        have hmem : (c.val, [d]) ∈ runs.flatMap Run.rows :=
          List.mem_flatMap.2 ⟨r, hr, Run.mem_rows hrd⟩
        exact .inl ⟨[d], List.mem_append_right _ hmem, rfl⟩
      · exact .inr rfl

theorem capital_of_mem_capitals {c : CodePoint} (h : c ∈ capitals) : c.capital = [c] := by
  refine c.capital_cases.resolve_left ?_
  rintro ⟨t, hrow, -⟩
  exact not_mem_letters h (List.mem_map.2 ⟨_, hrow, rfl⟩)

theorem capital_of_mem_capital {c d : CodePoint} (hd : d ∈ c.capital) : d.capital = [d] := by
  obtain ⟨t, hrow, hc⟩ | hc := c.capital_cases
  · rw [hc] at hd
    obtain ⟨n, hn, rfl⟩ := List.mem_map.1 hd
    exact capital_of_mem_capitals (List.mem_map_of_mem (List.mem_flatMap.2 ⟨_, hrow, hn⟩))
  · rw [hc, List.mem_singleton] at hd
    rw [hd, hc]

end CodePoint

namespace Text

theorem upper_eq_self {t : Text} (h : ∀ c ∈ t, c.capital = [c]) : t.upper = t := by
  induction t with
  | nil => rfl
  | cons c t ih =>
      have hc := h c List.mem_cons_self
      have ht := ih fun d hd => h d (List.mem_cons_of_mem c hd)
      rw [upper_cons, hc, ht, List.singleton_append]

/-- Capitals taken a second time **stay as they are**. -/
theorem upper_upper (t : Text) : t.upper.upper = t.upper := by
  refine upper_eq_self fun d hd => ?_
  obtain ⟨c, -, hdc⟩ := List.mem_flatMap.1 hd
  exact CodePoint.capital_of_mem_capital hdc

end Text

/-! ### The case of ASCII letters -/

/-- Two code points are the same, or the two cases of an ASCII letter. -/
def CodePoint.SameLetter (c d : CodePoint) : Prop :=
  c = d ∨ (65 ≤ c.val ∧ c.val ≤ 90 ∧ d.val = c.val + 32) ∨
    (65 ≤ d.val ∧ d.val ≤ 90 ∧ c.val = d.val + 32)

instance (c d : CodePoint) : Decidable (c.SameLetter d) := inferInstanceAs (Decidable (_ ∨ _))

/-- The two cases of an ASCII letter have the same capital. -/
theorem CodePoint.capital_eq_of_small {c d : CodePoint} (hc : 65 ≤ c.val ∧ c.val ≤ 90)
    (hd : d.val = c.val + 32) : c.capital = d.capital := by
  have hsub : d - 32 = c := by
    refine Fin.ext ?_
    have hval : (d - 32).val = d.val - 32 := Fin.sub_val_of_le (by omega)
    omega
  rw [capital_of_lt (by omega), capital_of_lt (by omega), if_neg (by omega), if_pos (by omega),
    hsub]

theorem CodePoint.SameLetter.capital_eq {c d : CodePoint} (h : c.SameLetter d) :
    c.capital = d.capital := by
  obtain rfl | ⟨hlow, hhigh, hd⟩ | ⟨hlow, hhigh, hc⟩ := h
  · rfl
  · exact CodePoint.capital_eq_of_small ⟨hlow, hhigh⟩ hd
  · exact (CodePoint.capital_eq_of_small ⟨hlow, hhigh⟩ hc).symm

/-- Two texts differ at most in the case of ASCII letters. -/
def Text.SameLetters (t u : Text) : Prop := List.Forall₂ CodePoint.SameLetter t u

instance (t u : Text) : Decidable (t.SameLetters u) :=
  inferInstanceAs (Decidable (List.Forall₂ _ t u))

/-- Texts with the same letters have the same capitals. -/
theorem Text.SameLetters.upper_eq {t u : Text} (h : t.SameLetters u) : t.upper = u.upper := by
  induction h with
  | nil => rfl
  | cons hc _ ih => rw [upper_cons, upper_cons, hc.capital_eq, ih]

end ScriptTutor
