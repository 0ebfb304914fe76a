/-
**The texts in a document.**

A code point beyond the first plane stands in JSON as a pair of surrogates, and a pair of surrogates
that a text holds stands there in the same way.  So a reader cannot tell the two apart, and joins
both.  Surrogates that do not make a pair are left alone.

Main definitions:

* `ScriptTutor.Surrogate.pair` — the code point for which a pair stands;
* `ScriptTutor.Text.joined` — a text with its pairs joined;
* `ScriptTutor.Text.IsPairFree` — no high surrogate comes directly before a low one;
* `ScriptTutor.Document.texts`, `ScriptTutor.Document.mapTexts` — the texts in a document, names of
  fields included, and the document with other texts in their places;
* `ScriptTutor.Document.hasReal` — whether a number that is no integer stands in a document.

Main results:

* `ScriptTutor.Surrogate.pair_surrogates` — a code point **is split and joined again**;
* `ScriptTutor.Text.joined_eq_self` — a text without pairs is not changed;
* `ScriptTutor.Document.mapTexts_eq_self` — nor is a document whose texts are not changed.
-/

import Mathlib.Data.List.Chain
import ScriptTutor.Document.Basic

set_option relaxedAutoImplicit false
set_option autoImplicit false

namespace ScriptTutor

/-! ### Surrogates -/

namespace Surrogate

/-- The first one of a pair. -/
def IsHigh (n : Nat) : Prop := 0xD800 ≤ n ∧ n < 0xDC00

/-- The second one of a pair. -/
def IsLow (n : Nat) : Prop := 0xDC00 ≤ n ∧ n < 0xE000

instance (n : Nat) : Decidable (IsHigh n) := inferInstanceAs (Decidable (_ ∧ _))

instance (n : Nat) : Decidable (IsLow n) := inferInstanceAs (Decidable (_ ∧ _))

/-- The code point for which a pair stands. -/
def pair (high low : Nat) : CodePoint :=
  Fin.ofNat _ (0x10000 + (high - 0xD800) * 0x400 + (low - 0xDC00))

theorem isHigh_highSurrogate {n : Nat} (h : n < 0x110000) :
    IsHigh (Document.highSurrogate n) := by
  rw [IsHigh, Document.highSurrogate]
  omega

theorem isLow_lowSurrogate (n : Nat) : IsLow (Document.lowSurrogate n) := by
  rw [IsLow, Document.lowSurrogate]
  omega

/-- A code point beyond the first plane is split into two surrogates and joined again. -/
theorem pair_surrogates {c : CodePoint} (h : 0x10000 ≤ c.val) :
    pair (Document.highSurrogate c.val) (Document.lowSurrogate c.val) = c := by
  have hlt := c.isLt
  apply Fin.ext
  rw [pair, Fin.val_ofNat, Document.highSurrogate, Document.lowSurrogate]
  omega

end Surrogate

namespace Text

open Surrogate

/-- The text with its pairs joined, from the left. -/
def joined : Text → Text
  | h :: l :: t =>
    if IsHigh h.val ∧ IsLow l.val then pair h.val l.val :: joined t else h :: joined (l :: t)
  | t => t

/-- No high surrogate comes directly before a low one. -/
def IsPairFree (t : Text) : Prop := t.IsChain fun h l => ¬ (IsHigh h.val ∧ IsLow l.val)

instance (t : Text) : Decidable t.IsPairFree := inferInstanceAs (Decidable (List.IsChain _ _))

/-- A text without pairs is not changed. -/
theorem joined_eq_self {t : Text} (h : t.IsPairFree) : t.joined = t := by
  induction t with
  | nil => rfl
  | cons c t ih =>
      cases t with
      | nil => rfl
      | cons d t =>
          obtain ⟨hpair, hrest⟩ := List.isChain_cons_cons.1 h
          rw [joined, if_neg hpair, ih hrest]

/-- Two surrogates that make a pair are joined. -/
example : joined [0xD83D, 0xDE00, 0xDE00] = [0x1F600, 0xDE00] := by decide

end Text

/-! ### Documents -/

namespace Document

mutual

/-- The texts in a document, names of fields included. -/
def texts : Document → List Text
  | text t => [t]
  | list xs => textsOfList xs
  | record fields => textsOfFields fields
  | _ => []

def textsOfList : List Document → List Text
  | [] => []
  | x :: xs => texts x ++ textsOfList xs

def textsOfFields : List (Text × Document) → List Text
  | [] => []
  | (k, x) :: fields => k :: (texts x ++ textsOfFields fields)

end

mutual

/-- The document with other texts in the places of its texts. -/
def mapTexts (f : Text → Text) : Document → Document
  | text t => text (f t)
  | list xs => list (mapList f xs)
  | record fields => record (mapFields f fields)
  | d => d

def mapList (f : Text → Text) : List Document → List Document
  | [] => []
  | x :: xs => mapTexts f x :: mapList f xs

def mapFields (f : Text → Text) : List (Text × Document) → List (Text × Document)
  | [] => []
  | (k, x) :: fields => (f k, mapTexts f x) :: mapFields f fields

end

mutual

/-- Whether a number that is no integer stands in a document. -/
def hasReal : Document → Bool
  | real _ => true
  | list xs => listHasReal xs
  | record fields => fieldsHaveReal fields
  | _ => false

/-- Whether a number that is no integer stands in one of the documents of a list. -/
def listHasReal : List Document → Bool
  | [] => false
  | x :: xs => hasReal x || listHasReal xs

def fieldsHaveReal : List (Text × Document) → Bool
  | [] => false
  | (_, x) :: fields => hasReal x || fieldsHaveReal fields

end

mutual

/-- A document whose texts are not changed is not changed. -/
theorem mapTexts_eq_self {f : Text → Text} : ∀ (d : Document), (∀ t ∈ d.texts, f t = t) →
    d.mapTexts f = d
  | null, _ => rfl
  | flag _, _ => rfl
  | number _, _ => rfl
  | real _, _ => rfl
  | text t, h => by
      rw [mapTexts, h t (List.mem_singleton_self t)]
  | list xs, h => by
      rw [mapTexts, mapList_eq_self xs h]
  | record fields, h => by
      rw [mapTexts, mapFields_eq_self fields h]

theorem mapList_eq_self {f : Text → Text} : ∀ (xs : List Document),
    (∀ t ∈ textsOfList xs, f t = t) → mapList f xs = xs
  | [], _ => rfl
  | x :: xs, h => by
      rw [textsOfList, List.forall_mem_append] at h
      rw [mapList, mapTexts_eq_self x h.1, mapList_eq_self xs h.2]

theorem mapFields_eq_self {f : Text → Text} : ∀ (fields : List (Text × Document)),
    (∀ t ∈ textsOfFields fields, f t = t) → mapFields f fields = fields
  | [], _ => rfl
  | (k, x) :: fields, h => by
      rw [textsOfFields, List.forall_mem_cons, List.forall_mem_append] at h
      rw [mapFields, h.1, mapTexts_eq_self x h.2.1, mapFields_eq_self fields h.2.2]

end

mutual

theorem hasReal_mapTexts (f : Text → Text) : ∀ d : Document, (d.mapTexts f).hasReal = d.hasReal
  | null => rfl
  | flag _ => rfl
  | number _ => rfl
  | real _ => rfl
  | text _ => rfl
  | list xs => listHasReal_mapList f xs
  | record fields => fieldsHaveReal_mapFields f fields

theorem listHasReal_mapList (f : Text → Text) : ∀ xs : List Document,
    listHasReal (mapList f xs) = listHasReal xs
  | [] => rfl
  | x :: xs => by
      rw [mapList, listHasReal, listHasReal, hasReal_mapTexts f x, listHasReal_mapList f xs]

theorem fieldsHaveReal_mapFields (f : Text → Text) : ∀ fields : List (Text × Document),
    fieldsHaveReal (mapFields f fields) = fieldsHaveReal fields
  | [] => rfl
  | (_, x) :: fields => by
      rw [mapFields, fieldsHaveReal, fieldsHaveReal, hasReal_mapTexts f x,
        fieldsHaveReal_mapFields f fields]

end

theorem listHasReal_eq_false_iff {xs : List Document} :
    listHasReal xs = false ↔ ∀ x ∈ xs, x.hasReal = false := by
  induction xs with
  | nil => simp [listHasReal]
  | cons x xs ih => simp [listHasReal, ih]

end Document

end ScriptTutor
