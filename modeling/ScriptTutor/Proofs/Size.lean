/-
**How many bytes a number has.**

The size of an item is the number of its bytes, and a number has as many as its size and one bit for
the sign need.  So the size of a number grows by one wherever the number would run into the sign: at
2^7, at 2^15, at 2^23, and so on, and on both sides of zero alike.

Main results:

* `ScriptTutor.ScriptNumber.length_encode_le_iff` — so many bytes are enough exactly below a power
  of two;
* `ScriptTutor.ScriptNumber.isLeast_length_encode` — no smaller number of bytes is enough;
* `ScriptTutor.Machine.turns_size` — the opcode that measures puts the size on top of the item;
* `ScriptTutor.Machine.size_isLeast` — **a number is measured by the least number of bytes** that
  hold it.
-/

import Mathlib.Order.Bounds.Basic
import ScriptTutor.Proofs.Representation.Equality
import ScriptTutor.Proofs.ScriptNumber

set_option relaxedAutoImplicit false
set_option autoImplicit false

namespace ScriptTutor

namespace ScriptNumber

/-- So many bytes are enough exactly for the numbers below the sign. -/
theorem length_encode_le_iff {n : Int} {k : Nat} (h : 1 ≤ k) :
    (encode n).length ≤ k ↔ n.natAbs < 2 ^ (8 * k - 1) := by
  have hk : k ≠ 0 := Nat.one_le_iff_ne_zero.1 h
  rw [length_encode, width_le_iff hk, signBit_eq_two_pow hk]

theorem length_encode_eq_zero_iff {n : Int} : (encode n).length = 0 ↔ n = 0 := by
  rw [length_encode, width_eq_zero_iff, Int.natAbs_eq_zero]

/-- A number other than zero has as few bytes as hold it below the sign. -/
theorem isLeast_length_encode {n : Int} (hn : n ≠ 0) :
    IsLeast {k : Nat | 1 ≤ k ∧ n.natAbs < 2 ^ (8 * k - 1)} (encode n).length := by
  have hpos : 1 ≤ (encode n).length :=
    Nat.one_le_iff_ne_zero.2 fun hzero => hn (length_encode_eq_zero_iff.1 hzero)
  constructor
  · exact ⟨hpos, (length_encode_le_iff hpos).1 (Nat.le_refl _)⟩
  · rintro k ⟨hk, hlt⟩
    exact (length_encode_le_iff hk).2 hlt

end ScriptNumber

namespace Machine

open ScriptNumber

/-- The opcode that measures puts the number of bytes on top of the item. -/
theorem turns_size (x : Item) :
    Turns (opcodes ["OP_SIZE"]) [x] [.number x.toBytes.length, x] :=
  Turns.of_result? Dispatch.size_mem rfl

/-- **A number is measured by the least number of bytes that hold it.**  So many bytes, one or more,
hold exactly the numbers on both sides of zero whose highest bit is left to the sign; zero, and
nothing else, needs none.  Wherever instructions are executed, a number on top of the stack stays
there, and its size is put on top of it: no bytes for zero, and otherwise the least number of bytes
that are enough. -/
theorem size_isLeast :
    (∀ (n : Int) (k : Nat), 1 ≤ k → ((encode n).length ≤ k ↔ n.natAbs < 2 ^ (8 * k - 1))) ∧
      (∀ n : Int, (encode n).length = 0 ↔ n = 0) ∧
      ∀ n : Int, ∃ size : Nat,
        Turns (opcodes ["OP_SIZE"]) [.number n] [.number size, .number n] ∧
          (n = 0 → size = 0) ∧
          (n ≠ 0 → IsLeast {k : Nat | 1 ≤ k ∧ n.natAbs < 2 ^ (8 * k - 1)} size) := by
  refine ⟨fun _ _ hk => length_encode_le_iff hk, fun _ => length_encode_eq_zero_iff, ?_⟩
  intro n
  exact ⟨_, turns_size (.number n), length_encode_eq_zero_iff.2, isLeast_length_encode⟩

/-- One byte holds 127, but not -128, which is measured by the least number of bytes that hold
it. -/
theorem size_isLeast_boundary :
    (encode 127).length ≤ 1 ∧ ¬ (encode (-128)).length ≤ 1 ∧
      ∃ size : Nat, Turns (opcodes ["OP_SIZE"]) [.number (-128)] [.number size, .number (-128)] ∧
        IsLeast {k : Nat | 1 ≤ k ∧ (-128 : Int).natAbs < 2 ^ (8 * k - 1)} size := by
  obtain ⟨hle, -, hturns⟩ := size_isLeast
  obtain ⟨size, hsize, -, hleast⟩ := hturns (-128)
  have hsmall := (hle 127 1 (by decide)).2 (by decide)
  have hlarge := mt (hle (-128) 1 (by decide)).1 (by decide)
  exact ⟨hsmall, hlarge, size, hsize, hleast (by decide)⟩

end Machine

end ScriptTutor
