/-
**Byte strings and their hexadecimal text.**

Main definitions:

* `ScriptTutor.Bytes` — a list of bytes;
* `ScriptTutor.Bytes.toHex` — two lower-case digits for each byte;
* `ScriptTutor.Bytes.ofHex?` — the bytes that pairs of digits denote, in either case.

Main results:

* `ScriptTutor.Bytes.ofHex?_toHex` — **what is written is read back**;
* `ScriptTutor.Bytes.ofHex?_congr` — the letter case of digits does not matter.
-/

import ScriptTutor.Text.Numeral

set_option relaxedAutoImplicit false
set_option autoImplicit false

namespace ScriptTutor

abbrev Bytes := List UInt8

namespace Bytes

def hexDigit (n : Nat) : CodePoint := CodePoint.ofChar (Nat.digitChar n)

/-- Two lower-case digits for each byte, the high one first. -/
def toHex : Bytes → Text
  | [] => []
  | b :: bs => hexDigit (b.toNat / 16) :: hexDigit (b.toNat % 16) :: toHex bs

/-- The bytes that pairs of digits denote; there is none for an odd digit. -/
def ofHex? : Text → Option Bytes
  | [] => some []
  | [_] => none
  | h :: l :: t =>
    match digitValue? 16 h, digitValue? 16 l, ofHex? t with
    | some x, some y, some bs => some (UInt8.ofNat (16 * x + y) :: bs)
    | _, _, _ => none

theorem digitValue?_hexDigit : ∀ n, n < 16 → digitValue? 16 (hexDigit n) = some n := by
  decide

/-- **What is written is read back.** -/
theorem ofHex?_toHex (bs : Bytes) : ofHex? bs.toHex = some bs := by
  induction bs with
  | nil => rfl
  | cons b bs ih =>
      have hb := b.toNat_lt
      simp only [toHex, ofHex?, digitValue?_hexDigit _ (show b.toNat / 16 < 16 by omega),
        digitValue?_hexDigit _ (show b.toNat % 16 < 16 by omega), ih]
      rw [show 16 * (b.toNat / 16) + b.toNat % 16 = b.toNat by omega, UInt8.ofNat_toNat]

/-- Digits of the same values denote the same bytes. -/
theorem ofHex?_congr : ∀ {s t : Text}, s.map digit? = t.map digit? → ofHex? s = ofHex? t
  | [], [], _ => rfl
  | [_], [_], _ => rfl
  | _ :: _ :: _, _ :: _ :: _, h => by
      simp only [List.map_cons, List.cons.injEq] at h
      obtain ⟨hhigh, hlow, hrest⟩ := h
      rw [ofHex?, ofHex?, digitValue?, digitValue?, digitValue?, digitValue?, hhigh, hlow,
        ofHex?_congr hrest]
  | [], _ :: _, h => by simp at h
  | _ :: _, [], h => by simp at h
  | [_], _ :: _ :: _, h => by simp at h
  | _ :: _ :: _, [_], h => by simp at h

@[simp] theorem length_toHex (bs : Bytes) : bs.toHex.length = 2 * bs.length := by
  induction bs with
  | nil => rfl
  | cons b bs ih => simp [toHex, ih]; omega

end Bytes

end ScriptTutor
