/-
**JSON cut into tokens.**

A scanner passes over a JSON text once, one code point at a time, and delivers its tokens: marks,
texts and words.  A word is a truth value, a number or `null`; it ends where something else begins,
so that the scanner carries the letters of a word until it comes to that.  Inside quotation marks it
carries what it has read of a text.  There an escaped unit of sixteen bits is not yet a code point,
because it may be one half of a pair.

Main definitions:

* `ScriptTutor.Json.Token` — a mark, a text or a word;
* `ScriptTutor.Json.Mode` — where the scanner is, and what it carries;
* `ScriptTutor.Json.Mode.step`, `ScriptTutor.Json.Mode.run` — one code point, and several;
* `ScriptTutor.Json.tokens?` — the tokens of a JSON text;
* `ScriptTutor.Document.tokens` — the tokens of which a document consists.

Main results:

* `ScriptTutor.Json.Mode.run_append` — what is put one after the other is scanned one after the
  other;
* `ScriptTutor.Json.Sign.join_signs` — an escaped text is read back **with its pairs joined**;
* `ScriptTutor.Json.delivers_render` — **the text of a document delivers its tokens**, however deep
  the document lies inside others.
-/

import Mathlib.Tactic.SplitIfs
import ScriptTutor.Proofs.Document.Texts
import ScriptTutor.Proofs.Numeral

set_option relaxedAutoImplicit false
set_option autoImplicit false

namespace ScriptTutor

namespace Json

/-! ### Texts in quotation marks -/

/-- What a scanner reads inside quotation marks. -/
inductive Sign where
  /-- A code point that stands for itself, or that has an escape of its own. -/
  | raw (c : CodePoint)
  /-- A unit of sixteen bits, escaped by its number. -/
  | unit (n : Nat)

namespace Sign

open Surrogate

/-- The text that signs make.  Two escaped units that are a pair of surrogates are one code point;
any other unit is a code point on its own. -/
def join : List Sign → Text
  | unit h :: unit l :: signs =>
    if IsHigh h ∧ IsLow l then pair h l :: join signs else Fin.ofNat _ h :: join (unit l :: signs)
  | unit n :: signs => Fin.ofNat _ n :: join signs
  | raw c :: signs => c :: join signs
  | [] => []

/-- The signs by which a code point is written. -/
def ofCodePoint (c : CodePoint) : List Sign :=
  if c = '\n' ∨ c = '\r' ∨ c = '\t' ∨ c = '\x08' ∨ c = '\x0c' ∨ 0x20 ≤ c.val ∧ c.val < 0x7F then
    [raw c]
  else if c.val < 0x10000 then [unit c.val]
  else [unit (Document.highSurrogate c.val), unit (Document.lowSurrogate c.val)]

def signs (t : Text) : List Sign := t.flatMap ofCodePoint

/-- A unit that makes no pair with what follows is a code point on its own. -/
theorem join_unit {n : Nat} {signs : List Sign}
    (h : ∀ l, signs.head? = some (unit l) → ¬ (IsHigh n ∧ IsLow l)) :
    join (unit n :: signs) = Fin.ofNat _ n :: join signs := by
  cases signs with
  | nil => rfl
  | cons s signs =>
      cases s with
      | raw c => rfl
      | unit l => rw [join, if_neg (h l rfl)]

theorem ofCodePoint_cases (c : CodePoint) :
    (ofCodePoint c = [raw c] ∧ c.val < 0x7F) ∨ (ofCodePoint c = [unit c.val] ∧ c.val < 0x10000) ∨
    ofCodePoint c = [unit (Document.highSurrogate c.val), unit (Document.lowSurrogate c.val)] ∧
      0x10000 ≤ c.val := by
  rw [ofCodePoint]
  split
  · next h =>
    refine .inl ⟨rfl, ?_⟩
    rcases h with rfl | rfl | rfl | rfl | rfl | h
    · decide
    · decide
    · decide
    · decide
    · decide
    · exact h.2
  · split
    · next h => exact .inr (.inl ⟨rfl, h⟩)
    · next h => exact .inr (.inr ⟨rfl, Nat.le_of_not_lt h⟩)

/-- A unit that begins the signs of a text stands for the first code point, or for the first half of
it. -/
theorem head?_signs {d : CodePoint} {t : Text} {n : Nat}
    (h : (signs (d :: t)).head? = some (unit n)) : n = d.val ∨ ¬ IsLow n := by
  rw [signs, List.flatMap_cons] at h
  obtain ⟨hd, -⟩ | ⟨hd, -⟩ | ⟨hd, -⟩ := ofCodePoint_cases d
  · rw [hd] at h
    cases h
  · rw [hd] at h
    cases h
    exact .inl rfl
  · rw [hd] at h
    cases h
    have hhigh := isHigh_highSurrogate d.isLt
    rw [IsHigh] at hhigh
    rw [IsLow]
    exact .inr (by omega)

/-- A code point is read back, unless it is a half of a pair of which the other half follows. -/
theorem join_ofCodePoint {c : CodePoint} {signs : List Sign}
    (h : ∀ l, signs.head? = some (unit l) → ¬ (IsHigh c.val ∧ IsLow l)) :
    join (ofCodePoint c ++ signs) = c :: join signs := by
  obtain ⟨hc, -⟩ | ⟨hc, -⟩ | ⟨hc, hbeyond⟩ := ofCodePoint_cases c
  · rw [hc]
    rfl
  · rw [hc, List.singleton_append, join_unit h, Fin.ofNat_val_eq_self]
  · rw [hc, List.cons_append, List.singleton_append, join,
      if_pos ⟨isHigh_highSurrogate c.isLt, isLow_lowSurrogate _⟩, pair_surrogates hbeyond]

theorem ofCodePoint_surrogate {c : CodePoint} (h : 0xD800 ≤ c.val) (h' : c.val < 0xE000) :
    ofCodePoint c = [unit c.val] := by
  obtain ⟨-, hlt⟩ | ⟨hc, -⟩ | ⟨-, hle⟩ := ofCodePoint_cases c
  · omega
  · exact hc
  · omega

/-- An escaped text is read back **with its pairs joined**. -/
theorem join_signs : ∀ t : Text, join (signs t) = t.joined
  | [] => rfl
  | [c] => by
      show join (ofCodePoint c ++ []) = c :: join []
      exact join_ofCodePoint fun l hl => nomatch hl
  | h :: l :: t => by
      rw [Text.joined, signs, List.flatMap_cons]
      by_cases hpair : IsHigh h.val ∧ IsLow l.val
      -- both halves are written as units, and the reader cannot tell them from a split code point
      · obtain ⟨⟨hlow, hup⟩, hlow', hup'⟩ := id hpair
        rw [if_pos hpair, List.flatMap_cons, ofCodePoint_surrogate hlow (by omega),
          ofCodePoint_surrogate (by omega) hup', ← join_signs t]
        exact if_pos hpair
      · rw [if_neg hpair, ← join_signs (l :: t)]
        apply join_ofCodePoint
        intro n hn hhalves
        obtain rfl | hnot := head?_signs hn
        · exact hpair hhalves
        · exact hnot hhalves.2

end Sign

/-! ### Tokens -/

/-- What separates the parts of lists and records. -/
inductive Mark where
  | openList
  | closeList
  | openRecord
  | closeRecord
  | comma
  | colon
  deriving DecidableEq

def Mark.ofCodePoint? (c : CodePoint) : Option Mark :=
  if c = '[' then some openList
  else if c = ']' then some closeList
  else if c = '\x7b' then some openRecord
  else if c = '\x7d' then some closeRecord
  else if c = ',' then some comma
  else if c = ':' then some colon
  else none

/-- What a JSON text consists of, blanks aside. -/
inductive Token where
  | mark (m : Mark)
  | text (t : Text)
  /-- A truth value, a number or `null`, as it is written. -/
  | word (w : Text)
  deriving DecidableEq

def isBlank (c : CodePoint) : Bool := c = ' ' ∨ c = '\t' ∨ c = '\n' ∨ c = '\r'

/-- The code point that has an escape of its own, by its letter. -/
def shortEscape? (c : CodePoint) : Option CodePoint :=
  if c = '"' ∨ c = '\\' ∨ c = '/' then some c
  else if c = 'b' then some '\x08'
  else if c = 'f' then some '\x0c'
  else if c = 'n' then some '\n'
  else if c = 'r' then some '\r'
  else if c = 't' then some '\t'
  else none

/-! ### The scanner -/

/-- Where a scanner is, and what it carries. -/
inductive Mode where
  /-- Outside quotation marks, behind the letters of a word. -/
  | between (word : Text)
  /-- Inside quotation marks, behind some signs. -/
  | text (signs : List Sign)
  /-- Behind the backslash of an escape. -/
  | escape (signs : List Sign)
  /-- Behind some of the four digits of an escaped unit. -/
  | digits (signs : List Sign) (ds : Text)

/-- The token of a word, unless the word has no letters. -/
def ofWord (w : Text) : List Token := if w = [] then [] else [.word w]

namespace Mode

/-- What one code point delivers, and where the scanner is then; nothing if no JSON text has such a
code point there. -/
def step : Mode → CodePoint → Option (List Token × Mode)
  | between w, c =>
    if c = '"' then some (ofWord w, text [])
    else
      match Mark.ofCodePoint? c with
      | some m => some (ofWord w ++ [.mark m], between [])
      | none => if isBlank c then some (ofWord w, between []) else some ([], between (w ++ [c]))
  | text signs, c =>
    if c = '"' then some ([.text (Sign.join signs)], between [])
    else if c = '\\' then some ([], escape signs)
    else if c.val < 0x20 then none
    else some ([], text (signs ++ [.raw c]))
  | escape signs, c =>
    if c = 'u' then some ([], digits signs [])
    else (shortEscape? c).map fun d => ([], text (signs ++ [.raw d]))
  | digits signs ds, c =>
    if ds.length < 3 then some ([], digits signs (ds ++ [c]))
    else (naturalOf? 16 (ds ++ [c])).map fun n => ([], text (signs ++ [.unit n]))

/-- What several code points deliver, and where the scanner is then. -/
def run : Mode → Text → Option (List Token × Mode)
  | m, [] => some ([], m)
  | m, c :: t =>
    match m.step c with
    | none => none
    | some (ts, m') => (run m' t).map fun (us, m'') => (ts ++ us, m'')

end Mode

/-- The tokens of a JSON text; there are none if it ends inside quotation marks. -/
def tokens? (t : Text) : Option (List Token) :=
  match Mode.run (.between []) t with
  | some (ts, .between w) => some (ts ++ ofWord w)
  | _ => none

namespace Mode

@[simp] theorem run_nil (m : Mode) : m.run [] = some ([], m) := rfl

/-- What is put one after the other is scanned one after the other. -/
theorem run_append {m m' : Mode} {t : Text} {ts : List Token} (h : m.run t = some (ts, m'))
    (u : Text) : m.run (t ++ u) = (m'.run u).map fun (us, m'') => (ts ++ us, m'') := by
  induction t generalizing m ts with
  | nil =>
      cases h
      simp
  | cons c t ih =>
      rw [run] at h
      rw [List.cons_append, run]
      cases hc : m.step c with
      | none =>
          rw [hc] at h
          cases h
      | some p =>
          obtain ⟨us, k⟩ := p
          rw [hc] at h
          obtain ⟨⟨vs, _⟩, hrun, heq⟩ := Option.map_eq_some_iff.1 h
          cases heq
          simp only [ih hrun, Option.map_map]
          congr 1
          funext x
          simp

theorem run_trans {m m' m'' : Mode} {t u : Text} {ts us : List Token}
    (h : m.run t = some (ts, m')) (h' : m'.run u = some (us, m'')) :
    m.run (t ++ u) = some (ts ++ us, m'') := by
  rw [run_append h, h']
  rfl

/-! ### Texts -/

theorem run_singleton {m m' : Mode} {c : CodePoint} {ts : List Token}
    (h : m.step c = some (ts, m')) : m.run [c] = some (ts, m') := by
  simp [run, h]

theorem run_digits {signs : List Sign} {n : Nat} {t : Text} (ht : t ≠ []) :
    ∀ {ds : Text}, ds.length + t.length = 4 → naturalOf? 16 (ds ++ t) = some n →
      (digits signs ds).run t = some ([], text (signs ++ [.unit n])) := by
  induction t with
  | nil => exact absurd rfl ht
  | cons c t ih =>
      intro ds hlen hn
      rw [List.length_cons] at hlen
      cases t with
      | nil =>
          have hlast : ¬ ds.length < 3 := by
            rw [List.length_nil] at hlen
            omega
          apply run_singleton
          rw [step, if_neg hlast, hn]
          rfl
      | cons d t =>
          have hmore : ds.length < 3 := by
            rw [List.length_cons] at hlen
            omega
          have hstep : (digits signs ds).step c = some ([], digits signs (ds ++ [c])) :=
            if_pos hmore
          have hrest : (digits signs (ds ++ [c])).run (d :: t) =
              some ([], text (signs ++ [.unit n])) := by
            apply ih (List.cons_ne_nil d t)
            · rw [List.length_append, List.length_singleton]
              omega
            · rwa [List.append_assoc]
          exact run_trans (run_singleton hstep) hrest

theorem run_escapedUnit (signs : List Sign) {n : Nat} (hn : n < 0x10000) :
    (text signs).run (Document.escapedUnit n) = some ([], text (signs ++ [.unit n])) := by
  have hlen : (paddedHex 4 n).length = 4 := length_paddedHex (by decide) hn
  have hne : paddedHex 4 n ≠ [] := by
    intro h
    rw [h] at hlen
    cases hlen
  have hmark : (text signs).run "\\u" = some ([], digits signs []) := rfl
  exact run_trans hmark (run_digits hne (by simpa using hlen) (naturalOf?_paddedHex 4 n))

theorem run_escape (signs : List Sign) (c : CodePoint) :
    (text signs).run (Document.escape c) = some ([], text (signs ++ Sign.ofCodePoint c)) := by
  rw [Document.escape]
  split_ifs with hquote hslash hline hreturn htab hback hfeed hprintable hplane
  · subst hquote
    rfl
  · subst hslash
    rfl
  · subst hline
    rfl
  · subst hreturn
    rfl
  · subst htab
    rfl
  · subst hback
    rfl
  · subst hfeed
    rfl
  · have hsigns : Sign.ofCodePoint c = [.raw c] := by simp [Sign.ofCodePoint, hprintable]
    have hvisible : ¬ c.val < 0x20 := Nat.not_lt.2 hprintable.1
    apply run_singleton
    rw [step, if_neg hquote, if_neg hslash, if_neg hvisible, hsigns]
  · have hsigns : Sign.ofCodePoint c = [.unit c.val] := by
      simp [Sign.ofCodePoint, hline, hreturn, htab, hback, hfeed, hprintable, hplane]
    rw [hsigns]
    exact run_escapedUnit signs hplane
  · have hsigns : Sign.ofCodePoint c =
        [.unit (Document.highSurrogate c.val), .unit (Document.lowSurrogate c.val)] := by
      simp [Sign.ofCodePoint, hline, hreturn, htab, hback, hfeed, hprintable, hplane]
    obtain ⟨-, hhigh⟩ := Surrogate.isHigh_highSurrogate c.isLt
    obtain ⟨-, hlow⟩ := Surrogate.isLow_lowSurrogate c.val
    rw [hsigns, List.append_cons]
    exact run_trans (run_escapedUnit signs (by omega)) (run_escapedUnit _ (by omega))

/-- What is escaped inside quotation marks is read as its signs. -/
theorem run_flatMap_escape (signs : List Sign) (t : Text) :
    (text signs).run (t.flatMap Document.escape) = some ([], text (signs ++ Sign.signs t)) := by
  induction t generalizing signs with
  | nil => simp [Sign.signs]
  | cons c t ih =>
      have hmore := ih (signs ++ Sign.ofCodePoint c)
      rw [List.append_assoc] at hmore
      rw [List.flatMap_cons]
      exact run_trans (run_escape signs c) hmore

/-- A text in quotation marks delivers the text with its pairs joined. -/
theorem run_quoted (w : Text) (t : Text) :
    (between w).run (Document.quoted t) = some (ofWord w ++ [.text t.joined], between []) := by
  have hopen : (between w).run "\"" = some (ofWord w, text []) := by
    have hstep : (between w).step '"' = some (ofWord w, text []) := by
      rw [step, if_pos rfl]
    exact run_singleton hstep
  have hclose : (text (Sign.signs t)).run "\"" = some ([.text t.joined], between []) := by
    have hstep : (text (Sign.signs t)).step '"' =
        some ([.text t.joined], between []) := by
      rw [step, if_pos rfl, Sign.join_signs]
    exact run_singleton hstep
  have hinside := run_trans hopen (run_flatMap_escape [] t)
  rw [List.append_nil] at hinside
  exact run_trans hinside hclose

/-! ### Words, marks and blanks -/

theorem step_letter {c : CodePoint} (hquote : c ≠ '"') (hmark : Mark.ofCodePoint? c = none)
    (hblank : isBlank c = false) (w : Text) :
    (between w).step c = some ([], between (w ++ [c])) := by
  rw [step, if_neg hquote, hmark, hblank]
  rfl

end Mode

/-- The letters of words. -/
def isLetter (c : CodePoint) : Bool :=
  c ≠ '"' ∧ Mark.ofCodePoint? c = none ∧ isBlank c = false

theorem run_word {u : Text} (hu : ∀ c ∈ u, isLetter c = true) (w : Text) :
    (Mode.between w).run u = some ([], .between (w ++ u)) := by
  induction u generalizing w with
  | nil => simp
  | cons c u ih =>
      obtain ⟨hc, hrest⟩ := List.forall_mem_cons.1 hu
      obtain ⟨hquote, hmark, hblank⟩ := of_decide_eq_true hc
      have hmore := ih hrest (w ++ [c])
      rw [List.append_assoc] at hmore
      exact Mode.run_trans (Mode.run_singleton (Mode.step_letter hquote hmark hblank w)) hmore

/-- The text ends the word in front of it, delivers tokens, and does not end in a word. -/
def Cuts (t : Text) (ts : List Token) : Prop :=
  ∀ w, (Mode.between w).run t = some (ofWord w ++ ts, .between [])

/-- Behind the letters of a word, the text delivers tokens, and perhaps a word at its end. -/
def Delivers (w : Text) (t : Text) (ts : List Token) : Prop :=
  ∃ us v, (Mode.between w).run t = some (us, .between v) ∧ us ++ ofWord v = ofWord w ++ ts

theorem cuts_mark {c : CodePoint} {m : Mark} (hc : c ≠ '"') (hm : Mark.ofCodePoint? c = some m) :
    Cuts [c] [.mark m] := by
  intro w
  apply Mode.run_singleton
  rw [Mode.step, if_neg hc, hm]

theorem cuts_blank {c : CodePoint} (hc : c ≠ '"') (hm : Mark.ofCodePoint? c = none)
    (hblank : isBlank c = true) : Cuts [c] [] := by
  intro w
  apply Mode.run_singleton
  rw [Mode.step, if_neg hc, hm, hblank, List.append_nil]
  rfl

theorem cuts_quoted (t : Text) : Cuts (Document.quoted t) [.text t.joined] :=
  fun w => Mode.run_quoted w t

theorem Cuts.append {t u : Text} {ts us : List Token} (ht : Cuts t ts) (hu : Cuts u us) :
    Cuts (t ++ u) (ts ++ us) := by
  intro w
  have hrun := Mode.run_trans (ht w) (hu [])
  rwa [List.append_assoc] at hrun

theorem cuts_newLine (depth : Nat) : Cuts (Document.newLine depth) [] := by
  have hspaces : ∀ k, (Mode.between []).run (List.replicate k (CodePoint.ofChar ' ')) =
      some ([], .between []) := by
    intro k
    induction k with
    | zero => rfl
    | succ k ih => exact Mode.run_trans (cuts_blank (by decide) (by decide) (by decide) []) ih
  intro w
  have hline := cuts_blank (c := '\n') (by decide) (by decide) (by decide) w
  have hrun := Mode.run_trans hline (hspaces (2 * depth))
  rwa [List.append_nil] at hrun

theorem Cuts.delivers {t : Text} {ts : List Token} (h : Cuts t ts) (w : Text) : Delivers w t ts :=
  ⟨_, _, h w, List.append_nil _⟩

/-- A word is delivered once it ends. -/
theorem delivers_word {w : Text} (hne : w ≠ []) (hw : w.all isLetter = true) :
    Delivers [] w [.word w] := by
  refine ⟨[], w, run_word (List.all_eq_true.1 hw) [], ?_⟩
  rw [ofWord, ofWord, if_neg hne, if_pos rfl]

theorem Cuts.delivers_append {t u : Text} {ts us : List Token} (ht : Cuts t ts)
    (hu : Delivers [] u us) (w : Text) : Delivers w (t ++ u) (ts ++ us) := by
  obtain ⟨vs, v, hrun, hvs⟩ := hu
  refine ⟨_, v, Mode.run_trans (ht w) hrun, ?_⟩
  rw [List.append_assoc, hvs, List.append_assoc]
  rfl

theorem Delivers.append {w t u : Text} {ts us : List Token} (ht : Delivers w t ts)
    (hu : ∀ v, Delivers v u us) : Delivers w (t ++ u) (ts ++ us) := by
  obtain ⟨vs, v, hrun, hvs⟩ := ht
  obtain ⟨vs', v', hrun', hvs'⟩ := hu v
  refine ⟨_, v', Mode.run_trans hrun hrun', ?_⟩
  rw [List.append_assoc, hvs', ← List.append_assoc, hvs, List.append_assoc]

end Json

/-! ### Documents -/

namespace Document

open Json

mutual

/-- The tokens of which a document consists. -/
def tokens : Document → List Token
  | null => [.word "null"]
  | flag true => [.word "true"]
  | flag false => [.word "false"]
  | number n => [.word (decimalText n)]
  | real x => [.word (realText x)]
  | text t => [.text t]
  | list [] => [.mark .openList, .mark .closeList]
  | list (x :: xs) => [.mark .openList] ++ tokens x ++ moreTokens xs ++ [.mark .closeList]
  | record [] => [.mark .openRecord, .mark .closeRecord]
  | record ((k, x) :: fields) =>
    [.mark .openRecord, .text k, .mark .colon] ++ tokens x ++ fieldTokens fields ++
      [.mark .closeRecord]

def moreTokens : List Document → List Token
  | [] => []
  | x :: xs => [.mark .comma] ++ tokens x ++ moreTokens xs

def fieldTokens : List (Text × Document) → List Token
  | [] => []
  | (k, x) :: fields => [.mark .comma, .text k, .mark .colon] ++ tokens x ++ fieldTokens fields

end

end Document

namespace Json

open Document

theorem isLetter_hexDigit : ∀ d, d < 10 → isLetter (Bytes.hexDigit d) = true := by
  decide

theorem delivers_decimalText (n : Int) : Delivers [] (decimalText n) [.word (decimalText n)] := by
  have hdigits : digitsText 10 n.natAbs ≠ [] := digitsText_ne_nil (by decide) _
  have hne : decimalText n ≠ [] := List.append_ne_nil_of_right_ne_nil _ hdigits
  refine delivers_word hne (List.all_eq_true.2 ?_)
  intro c hc
  rw [decimalText, List.mem_append] at hc
  obtain hc | hc := hc
  · rw [signText] at hc
    split at hc
    · rw [List.mem_singleton.1 hc]
      decide
    · cases hc
  · obtain ⟨d, hd, rfl⟩ := exists_digit_of_mem (by decide) hc
    exact isLetter_hexDigit d hd

theorem cuts_key {start : Text} {m : Mark} (hstart : Cuts start [.mark m]) (depth : Nat)
    (k : Text) :
    Cuts (start ++ newLine depth ++ quoted k ++ ": ") [.mark m, .text k.joined, .mark .colon] := by
  have hcolon : Cuts ": " [.mark .colon] :=
    (cuts_mark (c := ':') (by decide) (by decide)).append
      (cuts_blank (c := ' ') (by decide) (by decide) (by decide))
  exact ((hstart.append (cuts_newLine depth)).append (cuts_quoted k)).append hcolon

theorem cuts_element {start : Text} {m : Mark} (hstart : Cuts start [.mark m]) (depth : Nat) :
    Cuts (start ++ newLine depth) [.mark m] := hstart.append (cuts_newLine depth)

/-- What stands behind the last part of a list or a record. -/
theorem Delivers.close {w t stop : Text} {ts : List Token} {m : Mark} (h : Delivers w t ts)
    (hstop : Cuts stop [.mark m]) (depth : Nat) :
    Delivers w (t ++ newLine depth ++ stop) (ts ++ [.mark m]) := by
  rw [List.append_assoc]
  exact h.append ((cuts_newLine depth).append hstop).delivers

-- Only a mark or a blank stands directly before a document, so no word is open where one begins.
-- Behind it a word may be open, and whatever follows has to end it.

mutual

/-- **The text of a document delivers its tokens**, however deep the document lies inside others. -/
theorem delivers_render : ∀ (d : Document) (depth : Nat), d.hasReal = false →
    Delivers [] (render depth d) (d.mapTexts Text.joined).tokens
  | null, _, _ => delivers_word (w := "null") (by decide) (by decide)
  | flag true, _, _ => delivers_word (w := "true") (by decide) (by decide)
  | flag false, _, _ => delivers_word (w := "false") (by decide) (by decide)
  | number n, _, _ => delivers_decimalText n
  | real _, _, h => nomatch h
  | text t, _, _ => (cuts_quoted t).delivers []
  | list [], _, _ => ⟨_, _, rfl, rfl⟩
  | list (x :: xs), depth, h => by
      rw [hasReal, listHasReal, Bool.or_eq_false_iff] at h
      have hopen : Cuts "[" [.mark .openList] := cuts_mark (c := '[') (by decide) (by decide)
      have hclose : Cuts "]" [.mark .closeList] := cuts_mark (c := ']') (by decide) (by decide)
      have hfirst := (cuts_element hopen (depth + 1)).delivers_append
        (delivers_render x (depth + 1) h.1) []
      exact (hfirst.append (delivers_renderMore xs (depth + 1) h.2)).close hclose depth
  | record [], _, _ => ⟨_, _, rfl, rfl⟩
  | record ((k, x) :: fields), depth, h => by
      rw [hasReal, fieldsHaveReal, Bool.or_eq_false_iff] at h
      have hopen : Cuts "\x7b" [.mark .openRecord] :=
        cuts_mark (c := '\x7b') (by decide) (by decide)
      have hclose : Cuts "\x7d" [.mark .closeRecord] :=
        cuts_mark (c := '\x7d') (by decide) (by decide)
      have hfirst := (cuts_key hopen (depth + 1) k).delivers_append
        (delivers_render x (depth + 1) h.1) []
      exact (hfirst.append (delivers_renderFields fields (depth + 1) h.2)).close hclose depth

theorem delivers_renderMore : ∀ (xs : List Document) (depth : Nat), listHasReal xs = false →
    ∀ w, Delivers w (renderMore depth xs) (moreTokens (mapList Text.joined xs))
  | [], _, _, w => ⟨[], w, rfl, (List.append_nil _).symm⟩
  | x :: xs, depth, h, w => by
      rw [listHasReal, Bool.or_eq_false_iff] at h
      have hcomma : Cuts "," [.mark .comma] := cuts_mark (c := ',') (by decide) (by decide)
      have hfirst := (cuts_element hcomma depth).delivers_append (delivers_render x depth h.1) w
      exact hfirst.append (delivers_renderMore xs depth h.2)

theorem delivers_renderFields : ∀ (fields : List (Text × Document)) (depth : Nat),
    fieldsHaveReal fields = false →
    ∀ w, Delivers w (renderFields depth fields) (fieldTokens (mapFields Text.joined fields))
  | [], _, _, w => ⟨[], w, rfl, (List.append_nil _).symm⟩
  | (k, x) :: fields, depth, h, w => by
      rw [fieldsHaveReal, Bool.or_eq_false_iff] at h
      have hcomma : Cuts "," [.mark .comma] := cuts_mark (c := ',') (by decide) (by decide)
      have hfirst := (cuts_key hcomma depth k).delivers_append (delivers_render x depth h.1) w
      exact hfirst.append (delivers_renderFields fields depth h.2)

end

/-- The text of a document on its own has exactly its tokens. -/
theorem tokens?_toText {d : Document} (h : d.hasReal = false) :
    tokens? d.toText = some (d.mapTexts Text.joined).tokens := by
  obtain ⟨ts, w, hrun, hts⟩ := delivers_render d 0 h
  rw [tokens?, toText, hrun]
  exact congrArg some hts

end Json

end ScriptTutor
