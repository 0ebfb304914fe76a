/-
**Different texts have different UTF-8 bytes.**

The first byte of a code point says how many continuation bytes follow it, and all bytes together
give its number back.  So a text can be read off its bytes, code point by code point, whatever the
code points are: a surrogate is read as the surrogate that was written, and two surrogates in a row
are never read as the one code point that they would stand for in another encoding.

Main definition:

* `ScriptTutor.CodePoint.readUtf8?` — the number of the code point that some bytes begin with, and
  the bytes behind it.

Main results:

* `ScriptTutor.CodePoint.readUtf8?_utf8_append` — **a code point is read back**, whatever stands
  behind its bytes;
* `ScriptTutor.Text.utf8_injective` — **different texts have different bytes**.
-/

import Mathlib.Tactic.SplitIfs
import ScriptTutor.Text.Utf8

set_option relaxedAutoImplicit false
set_option autoImplicit false

namespace ScriptTutor

/-! ### Reading a code point -/

/-- Reads `k` continuation bytes behind bits of the value `n`. -/
def readContinuation? : Nat → Nat → Bytes → Option (Nat × Bytes)
  | 0, n, bs => some (n, bs)
  | k + 1, n, b :: bs => readContinuation? k (0x40 * n + (b.toNat - 0x80)) bs
  | _ + 1, _, [] => none

/-- The number of the code point that the bytes begin with, and the bytes behind it. -/
def CodePoint.readUtf8? : Bytes → Option (Nat × Bytes)
  | [] => none
  | b :: bs =>
    if b.toNat < 0x80 then some (b.toNat, bs)
    else if b.toNat < 0xE0 then readContinuation? 1 (b.toNat - 0xC0) bs
    else if b.toNat < 0xF0 then readContinuation? 2 (b.toNat - 0xE0) bs
    else readContinuation? 3 (b.toNat - 0xF0) bs

theorem readContinuation?_continuationByte (k m n : Nat) (bs : Bytes) :
    readContinuation? (k + 1) m (continuationByte n :: bs) =
      readContinuation? k (0x40 * m + n % 0x40) bs := by
  rw [readContinuation?, continuationByte, UInt8.toNat_ofNat_of_lt' (show _ < 0x100 by omega),
    Nat.add_sub_cancel_left]

namespace CodePoint

/-- **A code point is read back**, whatever stands behind its bytes. -/
theorem readUtf8?_utf8_append (c : CodePoint) (bs : Bytes) :
    readUtf8? (c.utf8 ++ bs) = some (c.val, bs) := by
  have hc := c.isLt
  simp only [utf8]
  -- the first byte lies in another range for each number of bytes
  split_ifs with hone htwo hthree
  · rw [List.singleton_append, readUtf8?, UInt8.toNat_ofNat_of_lt' (show _ < 0x100 by omega),
      if_pos hone]
  · simp only [List.cons_append, List.nil_append]
    rw [readUtf8?, UInt8.toNat_ofNat_of_lt' (show _ < 0x100 by omega), if_neg (by omega),
      if_pos (by omega), Nat.add_sub_cancel_left, readContinuation?_continuationByte,
      readContinuation?]
    congr 2
    omega
  · simp only [List.cons_append, List.nil_append]
    rw [readUtf8?, UInt8.toNat_ofNat_of_lt' (show _ < 0x100 by omega), if_neg (by omega),
      if_neg (by omega), if_pos (by omega), Nat.add_sub_cancel_left,
      readContinuation?_continuationByte, readContinuation?_continuationByte, readContinuation?]
    congr 2
    omega
  · simp only [List.cons_append, List.nil_append]
    rw [readUtf8?, UInt8.toNat_ofNat_of_lt' (show _ < 0x100 by omega), if_neg (by omega),
      if_neg (by omega), if_neg (by omega), Nat.add_sub_cancel_left,
      readContinuation?_continuationByte, readContinuation?_continuationByte,
      readContinuation?_continuationByte, readContinuation?]
    congr 2
    omega

/-- Where the same bytes begin with two code points, the code points are the same, and so is what
stands behind them. -/
theorem utf8_append_inj {c d : CodePoint} {bs cs : Bytes} (h : c.utf8 ++ bs = d.utf8 ++ cs) :
    c = d ∧ bs = cs := by
  have hread := readUtf8?_utf8_append c bs
  rw [h, readUtf8?_utf8_append, Option.some.injEq, Prod.mk.injEq] at hread
  exact ⟨(Fin.ext hread.1).symm, hread.2.symm⟩

end CodePoint

/-! ### Texts -/

/-- **Different texts have different bytes.** -/
theorem Text.utf8_injective {t u : Text} (h : t.utf8 = u.utf8) : t = u := by
  induction t generalizing u with
  | nil =>
      cases u with
      | nil => rfl
      | cons d u => simp [CodePoint.utf8_ne_nil] at h
  | cons c t ih =>
      cases u with
      | nil => simp [CodePoint.utf8_ne_nil] at h
      | cons d u =>
          rw [Text.utf8_cons, Text.utf8_cons] at h
          obtain ⟨rfl, hrest⟩ := CodePoint.utf8_append_inj h
          rw [ih hrest]

/-- Two surrogates in a row are not the one code point that a pair of them stands for elsewhere. -/
example : Text.utf8 [0xD83D, 0xDE00] ≠ Text.utf8 [0x1F600] := by
  decide

end ScriptTutor
