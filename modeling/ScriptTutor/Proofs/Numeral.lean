/-
**Numerals are read back.**

The digits of a number are those of its quotient by the base, and the remainder behind them.
Reading goes the other way, from the first digit to the last, and so undoes writing digit by digit.

Main results:

* `ScriptTutor.readDigits_append` — digits put one after the other are read one after the other;
* `ScriptTutor.naturalOf?_digitsText` — **the digits of a number denote it**;
* `ScriptTutor.head?_digitsText` — a number other than zero does not begin with the digit zero;
* `ScriptTutor.naturalOf?_paddedHex` — zeros in front of the digits change nothing.
-/

import ScriptTutor.Bytes
import ScriptTutor.Text.Blank

set_option relaxedAutoImplicit false
set_option autoImplicit false

namespace ScriptTutor

/-! ### Digits -/

theorem digitValue?_of_lt {b d : Nat} (hb : b ≤ 16) (hd : d < b) :
    digitValue? b (Bytes.hexDigit d) = some d := by
  have hsixteen := Bytes.digitValue?_hexDigit d (Nat.lt_of_lt_of_le hd hb)
  rw [digitValue?, Option.filter_eq_some_iff] at hsixteen ⊢
  exact ⟨hsixteen.1, by simpa using hd⟩

/-- Digits put one after the other are read one after the other. -/
theorem readDigits_append (b n : Nat) (s t : Text) :
    readDigits b n (s ++ t) = (readDigits b n s).bind fun m => readDigits b m t := by
  induction s generalizing n with
  | nil => rfl
  | cons c s ih =>
      rw [List.cons_append, readDigits, readDigits]
      cases digitValue? b c with
      | none => rfl
      | some d => exact ih (n * b + d)

theorem digitsText_of_lt {b n : Nat} (h : n < b) : digitsText b n = [Bytes.hexDigit n] := by
  rw [digitsText, Nat.toDigits_of_lt_base h]
  rfl

theorem digitsText_of_le {b n : Nat} (hb : 1 < b) (h : b ≤ n) :
    digitsText b n = digitsText b (n / b) ++ [Bytes.hexDigit (n % b)] := by
  rw [digitsText, Nat.toDigits_of_base_le hb h, List.map_append]
  rfl

/-- An induction on the digits of a number: it is a digit itself, or a number that is one digit
shorter stands in front of its last digit. -/
theorem digits_induction {b : Nat} (hb : 1 < b) {motive : Nat → Prop}
    (digit : ∀ n, n < b → motive n) (more : ∀ n, b ≤ n → motive (n / b) → motive n) (n : Nat) :
    motive n := by
  induction n using Nat.strongRecOn with
  | ind n ih =>
      by_cases h : n < b
      · exact digit n h
      · have hle : b ≤ n := Nat.le_of_not_lt h
        exact more n hle (ih (n / b) (Nat.div_lt_self (by omega) hb))

section

variable {b : Nat} (hb : 1 < b)
include hb

theorem digitsText_ne_nil (n : Nat) : digitsText b n ≠ [] := by
  by_cases h : n < b
  · rw [digitsText_of_lt h]
    exact List.cons_ne_nil _ _
  · rw [digitsText_of_le hb (Nat.le_of_not_lt h)]
    exact List.append_ne_nil_of_right_ne_nil _ (List.cons_ne_nil _ _)

theorem exists_digit_of_mem {n : Nat} {c : CodePoint} (hc : c ∈ digitsText b n) :
    ∃ d, d < b ∧ c = Bytes.hexDigit d := by
  induction n using digits_induction hb with
  | digit n h =>
      rw [digitsText_of_lt h] at hc
      exact ⟨n, h, List.mem_singleton.1 hc⟩
  | more n h ih =>
      rw [digitsText_of_le hb h, List.mem_append] at hc
      obtain hc | hc := hc
      · exact ih hc
      · exact ⟨n % b, Nat.mod_lt n (by omega), List.mem_singleton.1 hc⟩

/-- A number other than zero does not begin with the digit zero. -/
theorem head?_digitsText {n : Nat} (hn : 0 < n) :
    ∃ d, 0 < d ∧ d < b ∧ (digitsText b n).head? = some (Bytes.hexDigit d) := by
  induction n using digits_induction hb with
  | digit n h => exact ⟨n, hn, h, by rw [digitsText_of_lt h]; rfl⟩
  | more n h ih =>
      obtain ⟨d, hpos, hlt, hhead⟩ := ih (Nat.div_pos h (by omega))
      refine ⟨d, hpos, hlt, ?_⟩
      rw [digitsText_of_le hb h, List.head?_append, hhead]
      rfl

variable (hb' : b ≤ 16)
include hb'

theorem isBlank_of_mem_digitsText {n : Nat} {c : CodePoint} (hc : c ∈ digitsText b n) :
    c.isBlank = false := by
  have hdigit : ∀ d, d < 16 → (Bytes.hexDigit d).isBlank = false := by decide
  obtain ⟨d, hd, rfl⟩ := exists_digit_of_mem hb hc
  exact hdigit d (Nat.lt_of_lt_of_le hd hb')

theorem readDigits_digitsText (n : Nat) : readDigits b 0 (digitsText b n) = some n := by
  induction n using digits_induction hb with
  | digit n h =>
      rw [digitsText_of_lt h, readDigits, digitValue?_of_lt hb' h]
      simp [readDigits]
  | more n h ih =>
      rw [digitsText_of_le hb h, readDigits_append, ih, Option.bind_some, readDigits,
        digitValue?_of_lt hb' (Nat.mod_lt n (by omega))]
      exact congrArg some (Nat.div_add_mod' n b)

/-- **The digits of a number denote it.** -/
theorem naturalOf?_digitsText (n : Nat) : naturalOf? b (digitsText b n) = some n := by
  rw [naturalOf?, if_neg (digitsText_ne_nil hb n), readDigits_digitsText hb hb']

end

/-! ### Signs -/

theorem isBlank_of_mem_signText {n : Int} {c : CodePoint} (hc : c ∈ signText n) :
    c.isBlank = false := by
  rw [signText] at hc
  split at hc
  · cases List.mem_singleton.1 hc
    rfl
  · cases hc

/-! ### Digits behind zeros -/

/-- Zeros in front of digits change nothing. -/
theorem readDigits_replicate_zero (k : Nat) (t : Text) :
    readDigits 16 0 (List.replicate k (CodePoint.ofChar '0') ++ t) = readDigits 16 0 t := by
  induction k with
  | zero => rfl
  | succ k ih =>
      rw [List.replicate_succ, List.cons_append]
      exact ih

/-- Zeros in front of the digits of a number change nothing. -/
theorem naturalOf?_paddedHex (width n : Nat) : naturalOf? 16 (paddedHex width n) = some n := by
  have hne : paddedHex width n ≠ [] :=
    List.append_ne_nil_of_right_ne_nil _ (digitsText_ne_nil (by decide) n)
  rw [naturalOf?, if_neg hne, paddedHex, readDigits_replicate_zero]
  exact readDigits_digitsText (by decide) (by decide) n

theorem length_paddedHex {width n : Nat} (hwidth : 0 < width) (hn : n < 16 ^ width) :
    (paddedHex width n).length = width := by
  have hle : (digitsText 16 n).length ≤ width := 
    (length_digitsText_le_iff (by decide) hwidth).2 hn
  rw [paddedHex, List.length_append, List.length_replicate]
  omega

end ScriptTutor
