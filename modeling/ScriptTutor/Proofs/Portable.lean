/-
**What other programs see of items, read back.**

For other programs, byte strings and wide integers become texts, and all other items stay as they
are.  A byte string has the same bytes in either form, and an integer that is not negative stands
for the same number.  Only negative integers lose what they stand for when they are wide: the minus
sign in front of the mark makes the text no numeral at all.

Main definition:

* `ScriptTutor.Item.IsNarrow` — no wide integer stands in the item.

Main results:

* `ScriptTutor.Item.toBytes_portable` — **the bytes stay the same**, wide integers aside;
* `ScriptTutor.Numeral.denotes_signedHexText`, `ScriptTutor.Numeral.not_denotes_signedHexText` — a
  hexadecimal numeral denotes what is written, and with a minus sign it denotes nothing;
* `ScriptTutor.Item.portable_readBack` — **which items are read back**.
-/

import Mathlib.Data.Nat.Size
import ScriptTutor.Proofs.Numeral
import ScriptTutor.Proofs.Representation.Equality
import ScriptTutor.Proofs.Text.Grammar
import ScriptTutor.Report

set_option relaxedAutoImplicit false
set_option autoImplicit false

namespace ScriptTutor

/-! ### Narrow items -/

theorem isWide_eq_true_iff {n : Int} : isWide n = true ↔ 256 < n.natAbs.size := by
  rw [isWide, decide_eq_true_eq]
  exact Nat.lt_size.symm

theorem isWide_eq_false_iff {n : Int} : isWide n = false ↔ n.natAbs.size ≤ 256 := by
  rw [← Bool.not_eq_true, isWide_eq_true_iff, Nat.not_lt]

/-- No wide integer stands in the item. -/
def Item.IsNarrow : Item → Prop
  | number n => n.natAbs.size ≤ 256
  | _ => True

/-! ### Hexadecimal numerals -/

namespace Numeral

theorem isBlank_of_mem_signedHexText {n : Int} : ∀ c ∈ signedHexText n, c.isBlank = false := by
  intro c hc
  rw [signedHexText, hexText, List.mem_append, List.mem_append] at hc
  obtain hsign | hmark | hdigits := hc
  · exact isBlank_of_mem_signText hsign
  · obtain rfl | hx := List.mem_cons.1 hmark
    · rfl
    · cases List.mem_singleton.1 hx
      rfl
  · exact isBlank_of_mem_digitsText (by decide) (by decide) hdigits

@[simp] theorem trim_signedHexText (n : Int) : (signedHexText n).trim = signedHexText n :=
  Text.trim_of_no_blank isBlank_of_mem_signedHexText

/-- Without a sign, a hexadecimal numeral denotes the number that is written. -/
theorem denotes_signedHexText {n : Int} (h : 0 ≤ n) : Denotes (signedHexText n) n := by
  obtain ⟨hne, hspells⟩ := (naturalOf?_eq_some_iff (by decide)).1
    (naturalOf?_digitsText (b := 16) (by decide) (by decide) n.natAbs)
  have hdenotes : Denotes (hexText n.natAbs) n.natAbs := .hexadecimal (.inl rfl) hne hspells
  rw [Int.natAbs_of_nonneg h] at hdenotes
  rw [signedHexText, signText, if_neg (Int.not_lt.2 h)]
  exact hdenotes

/-- A minus sign in front of the mark makes it no numeral. -/
theorem not_denotes_signedHexText {n m : Int} (h : n < 0) : ¬ Denotes (signedHexText n) m := by
  have htext : signedHexText n =
      ('-' : CodePoint) :: ('0' : CodePoint) :: ('x' : CodePoint) :: digitsText 16 n.natAbs := by
    rw [signedHexText, signText, if_pos h]
    rfl
  have hdecimal : readDecimal (signedHexText n) = .absent := by
    rw [htext]
    exact readDecimal_eq_absent (List.mem_cons_of_mem _ List.mem_cons_self) rfl
  have hmark : afterHexMark? (signedHexText n) = none := by
    rw [htext]
    rfl
  have hread : read (signedHexText n) = .absent := by
    rw [read, hmark, Option.bind_none, hdecimal]
  rw [← read_eq_number_iff, hread]
  intro h
  cases h

end Numeral

/-! ### Items -/

namespace Item

/-- Wide integers aside, **the bytes stay the same**. -/
theorem toBytes_portable {x : Item} (h : x.IsNarrow) : x.portable.toBytes = x.toBytes := by
  cases x with
  | number n =>
      have hnarrow : isWide n = false := isWide_eq_false_iff.2 h
      rw [portable, hnarrow]
      rfl
  | flag b => rfl
  | text t => rfl
  | bytes bs => exact toBytes_hex bs

theorem toNumber_portable {n : Int} (h : 0 ≤ n ∨ n.natAbs.size ≤ 256) :
    Value.toNumber (.item (portable (.number n))) = .ok n := by
  rw [portable]
  split_ifs with hwide
  · have hnonneg : 0 ≤ n := by
      have := isWide_eq_true_iff.1 hwide
      omega
    rw [Value.toNumber_text_eq_ok_iff, Numeral.trim_signedHexText]
    exact Numeral.denotes_signedHexText hnonneg
  · rfl

/-- What other programs see of an integer that is wide and negative is a text, and stands for no
number. -/
theorem exists_portable_of_wide {n : Int} (hneg : n < 0) (hwide : 256 < n.natAbs.size) :
    ∃ t shown, portable (.number n) = .text t ∧
      Value.toNumber (.item (.text t)) = .error (.failure (.notANumber shown)) := by
  have hnot : ¬ ∃ m, Numeral.Denotes (signedHexText n).trim m := by
    rintro ⟨m, hm⟩
    rw [Numeral.trim_signedHexText] at hm
    exact Numeral.not_denotes_signedHexText hneg hm
  obtain ⟨shown, hshown⟩ := Value.toNumber_text_eq_error_iff.2 hnot
  refine ⟨signedHexText n, shown, ?_, hshown⟩
  rw [portable, if_pos (isWide_eq_true_iff.2 hwide)]

/-- **What other programs see of items, read back.**  If no integer of more than 256 bits stands in
an item, it has the same bytes in either form; so a stack of such items is equal to what other
programs see of it.  An integer is the number that its other form stands for, if it is not negative
or has at most 256 bits; otherwise the other form is a text that stands for no number. -/
theorem portable_readBack :
    (∀ x : Item, x.IsNarrow → x.portable.toBytes = x.toBytes) ∧
      (∀ xs : List Item, (∀ x ∈ xs, x.IsNarrow) →
        Value.stacksEqual (xs.map fun x => (Value.item x).portable) (xs.map .item) = .ok true) ∧
      (∀ n : Int, 0 ≤ n ∨ n.natAbs.size ≤ 256 →
        Value.toNumber (.item (portable (.number n))) = .ok n) ∧
      ∀ n : Int, n < 0 → 256 < n.natAbs.size →
        ∃ t shown, portable (.number n) = .text t ∧
          Value.toNumber (.item (.text t)) = .error (.failure (.notANumber shown)) := by
  refine ⟨fun _ => toBytes_portable, ?_, fun _ => toNumber_portable,
    fun _ => exists_portable_of_wide⟩
  intro xs hxs
  have hmap : (xs.map fun x => (Value.item x).portable) = (xs.map portable).map .item := by
    rw [List.map_map]
    rfl
  rw [hmap, Value.stacksEqual_iff_toBytes, List.map_map]
  exact List.map_congr_left fun x hx => toBytes_portable (hxs x hx)

/-- A text, no bytes, a flag and the widest narrow integer have the same bytes in either form.  One
more makes an integer wide: it is still read back, but its negative is not. -/
theorem portable_readBack_boundary :
    (portable (.number (1 - 2 ^ 256))).toBytes = toBytes (.number (1 - 2 ^ 256)) ∧
      Value.stacksEqual
          ([.text "0X", .bytes [], .flag true, .number (1 - 2 ^ 256)].map fun x =>
            (Value.item x).portable)
          ([.text "0X", .bytes [], .flag true, .number (1 - 2 ^ 256)].map .item) = .ok true ∧
      Value.toNumber (.item (portable (.number (2 ^ 256)))) = .ok (2 ^ 256) ∧
      ∃ t shown, portable (.number (-2 ^ 256)) = .text t ∧
        Value.toNumber (.item (.text t)) = .error (.failure (.notANumber shown)) := by
  have hnarrow : ((1 : Int) - 2 ^ 256).natAbs.size ≤ 256 := by
    rw [Nat.size_le]
    decide
  have hwide : 256 < (-2 ^ 256 : Int).natAbs.size := by
    rw [Nat.lt_size]
    decide
  have hall : ∀ x ∈ ([.text "0X", .bytes [], .flag true, .number (1 - 2 ^ 256)] : List Item),
      x.IsNarrow := by
    simp only [List.forall_mem_cons]
    exact ⟨trivial, trivial, trivial, hnarrow, nofun⟩
  exact ⟨portable_readBack.1 _ hnarrow, portable_readBack.2.1 _ hall,
    portable_readBack.2.2.1 _ (.inl (by decide)), portable_readBack.2.2.2 _ (by decide) hwide⟩

end Item

end ScriptTutor
