/-
**Texts are compared as texts.**

A text on the stack stands for its UTF-8 bytes, unless it is the mark `0x` with pairs of
hexadecimal digits behind it, which stands for the bytes that the digits denote.  Since different
texts have different UTF-8 bytes, texts of the first kind are equal on the stack exactly if they are
the same sequence of code points; texts of the second kind are equal exactly if their digits agree
up to letter case.

Main definitions:

* `ScriptTutor.Text.IsHexOf`, `ScriptTutor.Text.IsHex` — a text that stands for the bytes that its
  digits denote.

Main results:

* `ScriptTutor.Item.textBytes_of_not_isHex`, `ScriptTutor.Item.ofHex?_of_isHexOf` — the bytes of a
  text of either kind;
* `ScriptTutor.Machine.obey_equal` — the comparison of the two topmost items asks for their bytes;
* `ScriptTutor.Machine.equal_texts` — **how texts are compared**.
-/

import ScriptTutor.Proofs.Representation.Equality
import ScriptTutor.Proofs.Text.Digits
import ScriptTutor.Proofs.Text.Utf8

set_option relaxedAutoImplicit false
set_option autoImplicit false

namespace ScriptTutor

/-! ### The bytes of a text -/

namespace Text

/-- The text is the mark `0x` or `0X` and, behind it, the given hexadecimal digits, an even number
of them. -/
structure IsHexOf (t digits : Text) : Prop where
  mark : ∃ mark : CodePoint, (mark = 'x' ∨ mark = 'X') ∧ t = ('0' : CodePoint) :: mark :: digits
  even : digits.length % 2 = 0
  digit : ∀ c ∈ digits, c.IsHexDigit

/-- The text is the mark with pairs of hexadecimal digits behind it. -/
def IsHex (t : Text) : Prop := ∃ digits, t.IsHexOf digits

theorem isHexOf_iff {t digits : Text} :
    t.IsHexOf digits ↔
      afterHexMark? t = some digits ∧ (Bytes.ofHex? digits).isSome = true := by
  rw [afterHexMark?_eq_some_iff, Bytes.isSome_ofHex?_iff]
  constructor
  · rintro ⟨hmark, heven, hdigit⟩
    exact ⟨hmark, heven, hdigit⟩
  · rintro ⟨hmark, heven, hdigit⟩
    exact ⟨hmark, heven, hdigit⟩

instance (t digits : Text) : Decidable (t.IsHexOf digits) := decidable_of_iff _ isHexOf_iff.symm

theorem isHex_iff {t : Text} :
    t.IsHex ↔ ((afterHexMark? t).bind Bytes.ofHex?).isSome = true := by
  simp only [IsHex, isHexOf_iff]
  cases afterHexMark? t with
  | none => simp
  | some u => simp

instance (t : Text) : Decidable t.IsHex := decidable_of_iff _ isHex_iff.symm

end Text

namespace Item

/-- Pairs of digits behind the mark stand for the bytes that they denote. -/
theorem ofHex?_of_isHexOf {t digits : Text} (h : t.IsHexOf digits) :
    Bytes.ofHex? digits = some (textBytes t) := by
  obtain ⟨hmark, hsome⟩ := Text.isHexOf_iff.1 h
  obtain ⟨bs, hbs⟩ := Option.isSome_iff_exists.1 hsome
  rw [textBytes, hmark, Option.bind_some, hbs]

/-- Any other text stands for its UTF-8 bytes. -/
theorem textBytes_of_not_isHex {t : Text} (h : ¬ t.IsHex) : textBytes t = t.utf8 := by
  rw [Text.isHex_iff, Option.not_isSome_iff_eq_none] at h
  rw [textBytes, h]

theorem textBytes_eq_iff_of_not_isHex {a b : Text} (ha : ¬ a.IsHex) (hb : ¬ b.IsHex) :
    textBytes a = textBytes b ↔ a = b := by
  rw [textBytes_of_not_isHex ha, textBytes_of_not_isHex hb]
  exact ⟨Text.utf8_injective, congrArg Text.utf8⟩

theorem textBytes_eq_iff_of_isHexOf {a b s t : Text} (ha : a.IsHexOf s) (hb : b.IsHexOf t) :
    textBytes a = textBytes b ↔ s.upper = t.upper := by
  have hs := ofHex?_of_isHexOf ha
  have ht := ofHex?_of_isHexOf hb
  rw [Text.upper_eq_upper_iff ha.digit hb.digit]
  constructor
  · intro h
    rw [Bytes.ofHex?_eq_some_iff.1 hs, Bytes.ofHex?_eq_some_iff.1 ht, h]
  · intro h
    rw [← Option.some.injEq, ← hs, ← ht]
    exact Bytes.ofHex?_congr h

end Item

/-! ### Comparing on the stack -/

theorem Dispatch.equal_mem : ⟨"OP_EQUAL", TopOp.equal, 2⟩ ∈ table := by
  simp [table, computations]

namespace Machine

/-- On the top of an executing stack, the comparison of two items asks whether their bytes are the
same. -/
theorem obey_equal {bs : Branches} (hbs : bs.executing = true) (x y : Item) (rest alt : Stack) :
    obey (.opcode "OP_EQUAL") ⟨⟨x :: y :: rest, alt⟩, bs⟩ =
      (.ok (), ⟨⟨.number (if x.toBytes = y.toBytes then 1 else 0) :: rest, alt⟩, bs⟩) := by
  have hres : TopOp.equal.rule.result? (x :: y :: rest) =
      some (.ok [.ofTruth (x.equal y)], rest) := rfl
  rw [obey_onTop_of_result Dispatch.equal_mem rfl hbs hres, Item.ofTruth, List.singleton_append]
  simp only [Item.equal_iff_toBytes]

/-- **Texts are compared as texts.**  Two texts of which neither is the mark with pairs of digits
behind it have the same bytes, and are equal on the top of an executing stack, exactly if they are
the same sequence of code points, surrogates included.  Two texts that both are such digits are
equal there exactly if the digits agree up to letter case. -/
theorem equal_texts :
    (∀ a b : Text, ¬ a.IsHex → ¬ b.IsHex →
      ((Item.text a).toBytes = (Item.text b).toBytes ↔ a = b) ∧
        ∀ (rest alt : Stack) (bs : Branches), bs.executing = true →
          obey (.opcode "OP_EQUAL") ⟨⟨.text a :: .text b :: rest, alt⟩, bs⟩ =
            (.ok (), ⟨⟨.number (if a = b then 1 else 0) :: rest, alt⟩, bs⟩)) ∧
      ∀ a b s t : Text, a.IsHexOf s → b.IsHexOf t →
        ∀ (rest alt : Stack) (bs : Branches), bs.executing = true →
          obey (.opcode "OP_EQUAL") ⟨⟨.text a :: .text b :: rest, alt⟩, bs⟩ =
            (.ok (), ⟨⟨.number (if s.upper = t.upper then 1 else 0) :: rest, alt⟩, bs⟩) := by
  constructor
  · intro a b ha hb
    have hbytes : (Item.text a).toBytes = (Item.text b).toBytes ↔ a = b :=
      Item.textBytes_eq_iff_of_not_isHex ha hb
    refine ⟨hbytes, ?_⟩
    intro rest alt bs hbs
    simp only [obey_equal hbs, hbytes]
  · intro a b s t ha hb rest alt bs hbs
    have hbytes : (Item.text a).toBytes = (Item.text b).toBytes ↔ s.upper = t.upper :=
      Item.textBytes_eq_iff_of_isHexOf ha hb
    simp only [obey_equal hbs, hbytes]

/-- A pair of surrogates differs from the one code point that it stands for elsewhere, and digits in
mixed case behind either mark are equal. -/
theorem equal_texts_surrogates :
    obey (.opcode "OP_EQUAL") ⟨⟨[.text [0xD83D, 0xDE00], .text [0x1F600]], []⟩, []⟩ =
        (.ok (), ⟨⟨[.number 0], []⟩, []⟩) ∧
      obey (.opcode "OP_EQUAL") ⟨⟨[.text "0xaB0C", .text "0XAb0c"], []⟩, []⟩ =
        (.ok (), ⟨⟨[.number 1], []⟩, []⟩) := by
  constructor
  · exact (equal_texts.1 [0xD83D, 0xDE00] [0x1F600] (by decide) (by decide)).2 [] [] [] rfl
  · exact equal_texts.2 "0xaB0C" "0XAb0c" "aB0C" "Ab0c" (by decide) (by decide) [] [] [] rfl

end Machine

end ScriptTutor
