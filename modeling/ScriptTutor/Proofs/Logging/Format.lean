/-
**Formats with a placeholder.**

The test of a format reads each part of a placeholder as far as it goes and never goes back.  It is
exact all the same: a zero may be read as a flag where the width was meant, but what is left of a
width is a width, and no other part can begin as the one before it goes on.

Main definitions:

* `ScriptTutor.Logging.Format.IsPlaceholder`, `ScriptTutor.Logging.Format.HasPlaceholder` — the
  grammar of placeholders, and formats with one.

Main results:

* `ScriptTutor.Logging.Format.startsPlaceholder_iff` — a placeholder at the start of a text;
* `ScriptTutor.Logging.Format.isValid_iff` — **a format is accepted if and only if it has a
  placeholder**.
-/

import Mathlib.Data.List.Infix
import Mathlib.Data.List.TakeWhile
import ScriptTutor.Logging.Format

set_option relaxedAutoImplicit false
set_option autoImplicit false

namespace ScriptTutor.Logging.Format

/-! ### The grammar -/

/-- A count is an asterisk or a text of digits. -/
def IsCount (t : Text) : Prop := t = ['*'] ∨ t ≠ [] ∧ ∀ c ∈ t, c.isDigit

/-- A precision is a full stop and a count. -/
def IsPrecision (t : Text) : Prop := ∃ count, IsCount count ∧ t = ('.' : CodePoint) :: count

/-- A percent sign, a key in parentheses, flags, a width or none, a precision or none, and a
conversion. -/
inductive IsPlaceholder : Text → Prop where
  | parts {key flags width precision : Text} {c : CodePoint}
      (hkey : key ≠ [] ∧ ∀ d ∈ key, d.isWord) (hflags : ∀ d ∈ flags, isFlag d)
      (hwidth : width = [] ∨ IsCount width) (hprecision : precision = [] ∨ IsPrecision precision)
      (hc : isConversion c) :
      IsPlaceholder ("%(" ++ key ++ ")" ++ flags ++ width ++ precision ++ [c])

/-- A placeholder stands somewhere in the format. -/
def HasPlaceholder (format : Text) : Prop := ∃ p, IsPlaceholder p ∧ p <:+: format

/-! ### Parts of a placeholder -/

/-- The text neither goes on with flags nor with a count. -/
def Stops (t : Text) : Prop := ∀ c ∈ t.head?, isFlag c = false ∧ startsCount [c] = false

theorem stops_conversion {c : CodePoint} (hc : isConversion c) (rest : Text) :
    Stops (c :: rest) := by
  have hall : conversions.all fun c => !isFlag c && !startsCount [c] := by decide +kernel
  have hstops := List.all_eq_true.1 hall c (List.contains_iff_mem.1 hc)
  rintro _ ⟨⟩
  simpa using hstops

theorem stops_fullStop (rest : Text) : Stops (('.' : CodePoint) :: rest) := by
  rintro _ ⟨⟩
  decide +kernel

theorem startsCount_append {count : Text} (h : IsCount count) (rest : Text) :
    startsCount (count ++ rest) := by
  obtain rfl | ⟨hne, hdigits⟩ := h
  · rfl
  · obtain ⟨c, t, rfl⟩ := List.exists_cons_of_ne_nil hne
    simp [startsCount, hdigits c]

theorem dropWhile_of_stops {p : CodePoint → Bool} {t : Text} (h : ∀ c ∈ t.head?, p c = false) :
    t.dropWhile p = t := by
  cases t with
  | nil => rfl
  | cons c t => rw [List.dropWhile_cons_of_neg (by simp [h c rfl])]

theorem afterCount_append {width rest : Text} (h : width = [] ∨ IsCount width)
    (hrest : Stops rest) : afterCount (width ++ rest) = rest := by
  have hdigits : rest.dropWhile (·.isDigit) = rest := by
    refine dropWhile_of_stops fun c hc => ?_
    have hstops := (hrest c hc).2
    rw [startsCount, Bool.or_eq_false_iff] at hstops
    exact hstops.2
  obtain rfl | rfl | ⟨hne, hwidth⟩ := h
  · cases rest with
    | nil => rfl
    | cons c rest =>
        have hstops := (hrest c rfl).2
        rw [startsCount, Bool.or_eq_false_iff] at hstops
        rw [List.nil_append, afterCount, if_neg (of_decide_eq_false hstops.1), hdigits]
  · rfl
  · obtain ⟨c, t, rfl⟩ := List.exists_cons_of_ne_nil hne
    have hc : c ≠ '*' := by
      rintro rfl
      exact absurd (hwidth '*' (by simp)) (by decide +kernel)
    rw [List.cons_append, afterCount, if_neg hc, ← List.cons_append,
      List.dropWhile_append_of_pos hwidth, hdigits]

/-- What is read as a count, if anything is. -/
theorem exists_count {t : Text} (h : startsCount t) :
    ∃ count, IsCount count ∧ t = count ++ afterCount t := by
  cases t with
  | nil => cases h
  | cons c t =>
      by_cases hc : c = '*'
      · exact ⟨['*'], .inl rfl, by simp [afterCount, hc]⟩
      · have hdigit : c.isDigit := by simpa [startsCount, hc] using h
        refine ⟨(c :: t).takeWhile (·.isDigit),
          .inr ⟨?_, fun _ hd => List.mem_takeWhile_imp hd⟩, ?_⟩
        · simp [hdigit]
        · rw [afterCount, if_neg hc, List.takeWhile_append_dropWhile]

theorem exists_width (t : Text) :
    ∃ width, (width = [] ∨ IsCount width) ∧ t = width ++ afterCount t := by
  by_cases h : startsCount t = true
  · obtain ⟨width, hwidth, ht⟩ := exists_count h
    exact ⟨width, .inr hwidth, ht⟩
  · refine ⟨[], .inl rfl, ?_⟩
    cases t with
    | nil => rfl
    | cons c t =>
        have hc : ¬ c = '*' ∧ c.isDigit = false := by simpa [startsCount] using h
        rw [List.nil_append, afterCount, if_neg hc.1, List.dropWhile_cons_of_neg (by simp [hc.2])]

theorem afterPrecision_append {precision rest : Text} {c : CodePoint}
    (h : precision = [] ∨ IsPrecision precision) (hc : isConversion c) :
    afterPrecision (precision ++ c :: rest) = c :: rest := by
  obtain rfl | ⟨count, hcount, rfl⟩ := h
  · have hstop : c ≠ '.' := by
      rintro rfl
      exact absurd hc (by decide +kernel)
    rw [List.nil_append, afterPrecision, if_neg (by simp [hstop])]
  · rw [List.cons_append, afterPrecision, if_pos (by simp [startsCount_append hcount]),
      afterCount_append (.inr hcount) (stops_conversion hc rest)]

theorem exists_afterPrecision (t : Text) :
    ∃ precision, (precision = [] ∨ IsPrecision precision) ∧ t = precision ++ afterPrecision t := by
  cases t with
  | nil => exact ⟨[], .inl rfl, rfl⟩
  | cons c t =>
      by_cases hc : (c = '.' && startsCount t) = true
      · obtain ⟨hstop, hstarts⟩ := Bool.and_eq_true_iff.1 hc
        obtain rfl := of_decide_eq_true hstop
        obtain ⟨count, hcount, ht⟩ := exists_count hstarts
        refine ⟨_, .inr ⟨count, hcount, rfl⟩, ?_⟩
        rw [afterPrecision, if_pos hc, List.cons_append, ← ht]
      · exact ⟨[], .inl rfl, by rw [List.nil_append, afterPrecision, if_neg hc]⟩

theorem afterKey?_eq_some_iff {t rest : Text} :
    afterKey? t = some rest ↔
      ∃ key : Text, (key ≠ [] ∧ ∀ d ∈ key, d.isWord) ∧ t = "(" ++ key ++ ")" ++ rest := by
  have hclose : CodePoint.isWord ')' = false := by decide +kernel
  constructor
  · intro h
    cases t with
    | nil => cases h
    | cons c t =>
        rw [afterKey?] at h
        split at h
        · next hc =>
            obtain ⟨hopen, hkey⟩ := Bool.and_eq_true_iff.1 hc
            obtain rfl := of_decide_eq_true hopen
            split at h
            · next d rest' hrest =>
                split at h
                · next hd =>
                    obtain rfl := Option.some.inj h
                    refine ⟨t.takeWhile (·.isWord), ⟨by simpa using hkey,
                      fun _ hd => List.mem_takeWhile_imp hd⟩, ?_⟩
                    rw [List.append_assoc, List.append_assoc]
                    change _ = ('(' : CodePoint) ::
                      (t.takeWhile (·.isWord) ++ (')' : CodePoint) :: rest')
                    rw [← hd, ← hrest, List.takeWhile_append_dropWhile]
                · cases h
            · cases h
        · cases h
  · rintro ⟨key, ⟨hne, hword⟩, rfl⟩
    rw [List.append_assoc, List.append_assoc]
    change afterKey? (('(' : CodePoint) :: (key ++ (')' : CodePoint) :: rest)) = some rest
    have hkey : (key ++ (')' : CodePoint) :: rest).takeWhile (·.isWord) = key := by
      rw [List.takeWhile_append_of_pos hword, List.takeWhile_cons_of_neg (by simp [hclose]),
        List.append_nil]
    have hrest : (key ++ (')' : CodePoint) :: rest).dropWhile (·.isWord) =
        (')' : CodePoint) :: rest := by
      rw [List.dropWhile_append_of_pos hword, List.dropWhile_cons_of_neg (by simp [hclose])]
    rw [afterKey?, hkey, hrest, if_pos (by simpa using hne)]
    rfl

/-! ### Placeholders -/

theorem dropWhile_width {width rest : Text} (h : width = [] ∨ IsCount width) (hrest : Stops rest) :
    ∃ left, (left = [] ∨ IsCount left) ∧ (width ++ rest).dropWhile isFlag = left ++ rest := by
  refine ⟨width.dropWhile isFlag, ?_, ?_⟩
  · obtain rfl | rfl | ⟨-, hdigits⟩ := h
    · exact .inl rfl
    · exact .inr (.inl (by decide +kernel))
    · by_cases hempty : width.dropWhile isFlag = []
      · exact .inl hempty
      · exact .inr (.inr ⟨hempty,
          fun d hd => hdigits d ((List.dropWhile_suffix _).subset hd)⟩)
  · rw [List.dropWhile_append, dropWhile_of_stops fun d hd => (hrest d hd).1]
    cases width.dropWhile isFlag <;> rfl

/-- What stands between the key of a placeholder and its conversion is flags, a width and a
precision. -/
theorem afterPrecision_eq_cons_iff {t rest : Text} {c : CodePoint} (hc : isConversion c) :
    afterPrecision (afterCount (t.dropWhile isFlag)) = c :: rest ↔
      ∃ flags width precision, (∀ d ∈ flags, isFlag d) ∧ (width = [] ∨ IsCount width) ∧
        (precision = [] ∨ IsPrecision precision) ∧
        t = flags ++ (width ++ (precision ++ c :: rest)) := by
  constructor
  · intro h
    obtain ⟨width, hwidth, ht⟩ := exists_width (t.dropWhile isFlag)
    obtain ⟨precision, hprecision, hrest⟩ :=
      exists_afterPrecision (afterCount (t.dropWhile isFlag))
    refine ⟨t.takeWhile isFlag, width, precision, fun _ hd => List.mem_takeWhile_imp hd, hwidth,
      hprecision, ?_⟩
    rw [← h, ← hrest, ← ht, List.takeWhile_append_dropWhile]
  · rintro ⟨flags, width, precision, hflags, hwidth, hprecision, rfl⟩
    have hstops : Stops (precision ++ c :: rest) := by
      obtain rfl | ⟨count, -, rfl⟩ := hprecision
      · exact stops_conversion hc rest
      · exact stops_fullStop _
    obtain ⟨left, hleft, hdrop⟩ := dropWhile_width hwidth hstops
    rw [List.dropWhile_append_of_pos hflags, hdrop, afterCount_append hleft hstops,
      afterPrecision_append hprecision hc]

theorem startsPlaceholder_cons_iff {c : CodePoint} {t : Text} :
    startsPlaceholder (c :: t) ↔ c = '%' ∧ ∃ rest d after, isConversion d ∧
      afterKey? t = some rest ∧
      afterPrecision (afterCount (rest.dropWhile isFlag)) = d :: after := by
  rw [startsPlaceholder, Bool.and_eq_true_iff, decide_eq_true_iff]
  refine and_congr_right fun _ => ?_
  cases afterKey? t with
  | none => simp
  | some rest => cases h : afterPrecision (afterCount (rest.dropWhile isFlag)) <;> simp [h]

/-- A text starts with a placeholder if and only if the test says so. -/
theorem startsPlaceholder_iff {t : Text} :
    startsPlaceholder t ↔ ∃ p, IsPlaceholder p ∧ p <+: t := by
  constructor
  · intro h
    cases t with
    | nil => cases h
    | cons c t =>
        obtain ⟨rfl, rest, d, after, hd, hkey, hrest⟩ := startsPlaceholder_cons_iff.1 h
        obtain ⟨key, hword, rfl⟩ := afterKey?_eq_some_iff.1 hkey
        obtain ⟨flags, width, precision, hflags, hwidth, hprecision, rfl⟩ :=
          (afterPrecision_eq_cons_iff hd).1 hrest
        refine ⟨_, .parts hword hflags hwidth hprecision hd, after, ?_⟩
        simp only [List.append_assoc]
        rfl
  · rintro ⟨_, ⟨hkey, hflags, hwidth, hprecision, hc⟩, after, rfl⟩
    simp only [List.append_assoc]
    exact startsPlaceholder_cons_iff.2 ⟨rfl, _, _, after, hc,
      afterKey?_eq_some_iff.2 ⟨_, hkey, by simp only [List.append_assoc]; rfl⟩,
      (afterPrecision_eq_cons_iff hc).2 ⟨_, _, _, hflags, hwidth, hprecision, rfl⟩⟩

/-- **A format is accepted if and only if it has a placeholder.** -/
theorem isValid_iff {t : Text} : isValid t ↔ HasPlaceholder t := by
  have hstarts : isValid t ↔ ∃ s, startsPlaceholder s ∧ s <:+ t := by
    induction t with
    | nil => simp [isValid, startsPlaceholder]
    | cons c t ih => simp [isValid, List.suffix_cons_iff, ih, and_or_left, exists_or]
  simp only [HasPlaceholder, hstarts, startsPlaceholder_iff, List.infix_iff_prefix_suffix]
  constructor
  · rintro ⟨s, ⟨p, hp, hprefix⟩, hsuffix⟩
    exact ⟨p, hp, s, hprefix, hsuffix⟩
  · rintro ⟨p, hp, s, hprefix, hsuffix⟩
    exact ⟨s, ⟨p, hp, hprefix⟩, hsuffix⟩

end ScriptTutor.Logging.Format
