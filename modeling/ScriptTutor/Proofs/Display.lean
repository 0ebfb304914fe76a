/-
**What is shown is exact, or visibly cut.**

An integer of at most 256 bits, a truth value and a byte string of at most eight bytes are shown in
full, and each kind has a shape of its own, so that the item can be read off the text.  Behind a
longer byte string or a wider integer stand three dots.

Main definitions:

* `ScriptTutor.Item.IsShort` — an item that is shown in full;
* `ScriptTutor.Display.source?` — the item that a text shows in full.

Main results:

* `ScriptTutor.Numeral.readDecimal_decimalText` — the decimal numeral of an integer **is read
  back**;
* `ScriptTutor.Display.source?_item` — an item that is shown in full **can be read off the text**;
* `ScriptTutor.Display.dots_iff` — **dots** stand behind all others, and behind them alone;
* `ScriptTutor.Display.exact_or_cut` — **what is shown is exact, or visibly cut**.
-/

import ScriptTutor.Display.Basic
import ScriptTutor.Proofs.Portable
import ScriptTutor.Proofs.TypedInput

set_option relaxedAutoImplicit false
set_option autoImplicit false

namespace ScriptTutor

/-! ### Decimal numerals -/

namespace Numeral

theorem signText_mem (n : Int) : signText n ∈ (["", "+", "-"] : List Text) := by
  rw [signText]
  split <;> simp

/-- The decimal numeral of an integer **is read back**. -/
theorem readDecimal_decimalText {n : Int} (h : (digitsText 10 n.natAbs).length ≤ digitLimit) :
    readDecimal (decimalText n) = .number n := by
  have hdigit : ∀ d, d < 10 → Bytes.hexDigit d ≠ '-' ∧ Bytes.hexDigit d ≠ '+' := by decide
  have hhead : ∀ c ∈ (digitsText 10 n.natAbs).head?, c ≠ '-' ∧ c ≠ '+' := by
    intro c hc
    obtain ⟨d, hd, rfl⟩ := exists_digit_of_mem (by decide) (List.mem_of_mem_head? hc)
    exact hdigit d hd
  rw [readDecimal_eq_number_iff, decimalText, splitSign_append (signText_mem n) hhead]
  refine ⟨h, n.natAbs, naturalOf?_digitsText (by decide) (by decide) _, ?_⟩
  obtain hneg | hnonneg := Int.lt_or_le n 0
  · rw [signText, if_pos hneg]
    show -(n.natAbs : Int) = n
    omega
  · rw [signText, if_neg (Int.not_lt.2 hnonneg)]
    show (n.natAbs : Int) = n
    omega

@[simp] theorem trim_decimalText (n : Int) : (decimalText n).trim = decimalText n := by
  refine Text.trim_of_no_blank fun c hc => ?_
  obtain hsign | hdigits := List.mem_append.1 hc
  · exact isBlank_of_mem_signText hsign
  · exact isBlank_of_mem_digitsText (by decide) (by decide) hdigits

end Numeral

/-! ### Short items -/

/-- An item is shown in full: an integer of at most 256 bits, a truth value, or a byte string of at
most eight bytes.  Texts are not meant here. -/
def Item.IsShort : Item → Prop
  | number n => n.natAbs.size ≤ 256
  | flag _ => True
  | bytes bs => bs.length ≤ 8
  | text _ => False

instance : DecidablePred Item.IsShort := fun x =>
  match x with
  | .number n => inferInstanceAs (Decidable (n.natAbs.size ≤ 256))
  | .flag _ => .isTrue trivial
  | .bytes bs => inferInstanceAs (Decidable (bs.length ≤ 8))
  | .text _ => .isFalse id

def Item.IsText : Item → Prop
  | text _ => True
  | _ => False

namespace Display

/-- The item that a text shows in full: a truth value, a decimal numeral, or bytes behind the
mark. -/
def source? (t : Text) : Option Item :=
  if t = flag true then some (.flag true)
  else if t = flag false then some (.flag false)
  else
    match Numeral.readDecimal t with
    | .number n => some (.number n)
    | _ => ((afterHexMark? t).bind Bytes.ofHex?).map .bytes

theorem item_number {n : Int} (h : n.natAbs.size ≤ 256) :
    item .single (.number n) = decimalText n := by
  have hwide : isWide n = false := isWide_eq_false_iff.2 h
  rw [item, number, hwide]
  rfl

/-- An integer of at most 256 bits has few digits, so that it is read back. -/
theorem readDecimal_item_number {n : Int} (h : n.natAbs.size ≤ 256) :
    Numeral.readDecimal (item .single (.number n)) = .number n := by
  rw [item_number h]
  exact Numeral.readDecimal_decimalText
    (length_digitsText_of_not_wide (isWide_eq_false_iff.2 h))

theorem typed_item_number {n : Int} (h : n.natAbs.size ≤ 256) :
    Value.typed (.item (.text (item .single (.number n)))) = .ok (some (.number n)) := by
  have hread := readDecimal_item_number h
  rw [item_number h] at hread ⊢
  rw [Value.typed_eq_number_iff, Value.toNumber_text_eq_ok_iff, Numeral.trim_decimalText,
    ← Numeral.read_eq_number_iff, Numeral.read_eq_readDecimal (by rw [hread]; exact nofun), hread]

theorem item_bytes {bs : Bytes} (h : bs.length ≤ 8) :
    item .single (.bytes bs) = "0x" ++ bs.toHex := by
  have hcount : ¬ Limits.single.byteCount < (bs.length : Int) := by
    show ¬ (8 : Int) < bs.length
    omega
  rw [item, bytes, if_neg hcount]

/-- An item that is shown in full **can be read off the text**. -/
theorem source?_item {x : Item} (h : x.IsShort) : source? (item .single x) = some x := by
  cases x with
  | number n =>
      have hread := readDecimal_item_number h
      have hflag : ∀ b, item .single (.number n) ≠ flag b := by
        intro b hb
        rw [hb] at hread
        cases b <;> cases hread
      rw [source?, if_neg (hflag true), if_neg (hflag false), hread]
  | flag b => cases b <;> rfl
  | bytes bs =>
      have hmark : afterHexMark? ("0x" ++ bs.toHex) = some bs.toHex := rfl
      rw [item_bytes h, source?, if_neg nofun, if_neg nofun,
        Numeral.readDecimal_of_afterHexMark? hmark, hmark]
      simp [Bytes.ofHex?_toHex]
  | text t => cases h

/-! ### Dots -/

theorem dots_of_wide {n : Int} (h : 256 < n.natAbs.size) :
    ("..." : Text) <:+ item .single (.number n) := by
  have hwide : isWide n = true := isWide_eq_true_iff.2 h
  have hle : 16 ^ 18 ≤ n.natAbs := Nat.le_trans (by decide) (Nat.lt_size.1 h)
  have hdigits : 18 < (digitsText 16 n.natAbs).length := by
    rw [← Nat.not_le, length_digitsText_le_iff (by decide) (by decide), Nat.not_lt]
    exact hle
  have hlen : (hexText n.natAbs).length = 2 + (digitsText 16 n.natAbs).length := List.length_append
  have hcount : Limits.single.hexLength < ((hexText n.natAbs).length : Int) := by
    show (20 : Int) < (hexText n.natAbs).length
    omega
  have hcut : text .single (hexText n.natAbs) = cutText false (hexText n.natAbs) :=
    if_pos ⟨rfl, hcount⟩
  have hdots : cutText false (hexText n.natAbs) = (hexText n.natAbs).take 10 ++ "..." :=
    List.append_nil _
  rw [item, number, hwide, if_pos rfl, hcut, hdots, ← List.append_assoc]
  exact List.suffix_append _ _

theorem dots_of_long {bs : Bytes} (h : 8 < bs.length) :
    ("..." : Text) <:+ item .single (.bytes bs) := by
  have hcount : Limits.single.byteCount < (bs.length : Int) := by
    show (8 : Int) < bs.length
    omega
  rw [item, bytes, if_pos hcount]
  exact List.suffix_append _ _

theorem dots_of_not_isShort {x : Item} (hx : ¬ x.IsText) (h : ¬ x.IsShort) :
    ("..." : Text) <:+ item .single x := by
  cases x with
  | number n => exact dots_of_wide (Nat.lt_of_not_le h)
  | flag b => exact absurd trivial h
  | bytes bs => exact dots_of_long (Nat.lt_of_not_le h)
  | text t => exact absurd trivial hx

theorem dot_not_mem {x : Item} (h : x.IsShort) : ('.' : CodePoint) ∉ item .single x := by
  intro hdot
  cases x with
  | number n =>
      have hdigit : ∀ d, d < 10 → ('.' : CodePoint) ≠ Bytes.hexDigit d := by decide
      rw [item_number h] at hdot
      obtain hsign | hdigits := List.mem_append.1 hdot
      · rw [signText] at hsign
        split at hsign
        · cases List.mem_singleton.1 hsign
        · cases hsign
      · obtain ⟨d, hd, heq⟩ := exists_digit_of_mem (by decide) hdigits
        exact hdigit d hd heq
  | flag b => cases b <;> revert hdot <;> decide
  | bytes bs =>
      rw [item_bytes h] at hdot
      obtain hmark | hdigits := List.mem_append.1 hdot
      · revert hmark
        decide
      · have hall := (Bytes.isSome_ofHex?_iff.1 (by rw [Bytes.ofHex?_toHex]; rfl)).2 _ hdigits
        obtain ⟨d, hd⟩ := hall
        cases digit?_eq_some_iff.2 hd
  | text t => exact h

/-- **Dots** stand exactly behind items that are not shown in full, texts aside. -/
theorem dots_iff {x : Item} (hx : ¬ x.IsText) :
    ("..." : Text) <:+ item .single x ↔ ¬ x.IsShort := by
  constructor
  · rintro ⟨t, ht⟩ hshort
    refine dot_not_mem hshort ?_
    rw [← ht]
    exact List.mem_append_right t List.mem_cons_self
  · exact dots_of_not_isShort hx

/-- Items that are shown by the same text, which does not end in dots, are the same. -/
theorem eq_of_item_eq {x y : Item} (hx : ¬ x.IsText) (hy : ¬ y.IsText)
    (h : item .single x = item .single y) (hdots : ¬ ("..." : Text) <:+ item .single x) :
    x = y := by
  have hxshort : x.IsShort := Decidable.not_not.1 fun hn => hdots ((dots_iff hx).2 hn)
  have hyshort : y.IsShort := by
    rw [h] at hdots
    exact Decidable.not_not.1 fun hn => hdots ((dots_iff hy).2 hn)
  have hsource : some x = some y := by
    rw [← source?_item hxshort, h, source?_item hyshort]
  exact Option.some.inj hsource

/-- **What is shown is exact, or visibly cut.**  Two items that are no texts, and that are shown by
the same text, are the same item, unless the text ends in dots.  An integer of at most 256 bits is
what its text stands for in typed input, and a byte string of at most eight bytes has the bytes of
its text; wider integers and longer byte strings, and they alone, end in dots. -/
theorem exact_or_cut :
    (∀ x y : Item, ¬ x.IsText → ¬ y.IsText → item .single x = item .single y →
      ¬ ("..." : Text) <:+ item .single x → x = y) ∧
    (∀ n : Int, n.natAbs.size ≤ 256 →
      Value.typed (.item (.text (item .single (.number n)))) = .ok (some (.number n))) ∧
    (∀ bs : Bytes, bs.length ≤ 8 → Item.toBytes (.text (item .single (.bytes bs))) = bs) ∧
    (∀ n : Int, ("..." : Text) <:+ item .single (.number n) ↔ 256 < n.natAbs.size) ∧
    ∀ bs : Bytes, ("..." : Text) <:+ item .single (.bytes bs) ↔ 8 < bs.length := by
  refine ⟨fun _ _ => eq_of_item_eq, fun _ => typed_item_number, ?_, ?_, ?_⟩
  · intro bs hbs
    rw [item_bytes hbs, Item.toBytes_hex]
  · intro n
    rw [dots_iff id, Item.IsShort, Nat.not_le]
  · intro bs
    rw [dots_iff id, Item.IsShort, Nat.not_le]

/-- Minus seven is read off its text, however it was come by.  The least integer that is not cut is
read back, and so are eight bytes; the next integer is cut, and so are nine bytes. -/
theorem exact_or_cut_boundary :
    Item.number (ScriptNumber.decode [0x87]) = .number (-7) ∧
      Value.typed (.item (.text (item .single (.number (1 - 2 ^ 256))))) =
        .ok (some (.number (1 - 2 ^ 256))) ∧
      Item.toBytes (.text (item .single (.bytes [0, 1, 2, 3, 4, 5, 6, 7]))) =
        [0, 1, 2, 3, 4, 5, 6, 7] ∧
      ("..." : Text) <:+ item .single (.number (-2 ^ 256)) ∧
      ("..." : Text) <:+ item .single (.bytes [0, 1, 2, 3, 4, 5, 6, 7, 8]) := by
  have hnarrow : ((1 : Int) - 2 ^ 256).natAbs.size ≤ 256 := by
    rw [Nat.size_le]
    decide
  have hwide : 256 < (-2 ^ 256 : Int).natAbs.size := by
    rw [Nat.lt_size]
    decide
  exact ⟨exact_or_cut.1 _ _ id id (by decide +kernel) (by decide +kernel),
    exact_or_cut.2.1 _ hnarrow, exact_or_cut.2.2.1 _ (by decide),
    (exact_or_cut.2.2.2.1 _).2 hwide, (exact_or_cut.2.2.2.2 _).2 (by decide)⟩

end Display

end ScriptTutor
