/-
**The laws of arithmetic on the stack.**

The opcodes that compute and compare ask for the numbers that items stand for, of whatever kind the
items are.  So they obey the laws of the integers, and these laws tie them together: of the three
comparisons exactly one holds; one number is less than another exactly if their difference is
negative; what is subtracted may be added again; the lesser and the greater of two numbers are these
two numbers; an interval is two comparisons.  The operand that lies below comes first, in all of
them.

Main definitions:

* `ScriptTutor.Unary.opcodeName`, `ScriptTutor.Binary.opcodeName` — the names of the opcodes;
* `ScriptTutor.Machine.PairLaws`, `ScriptTutor.Machine.SingleLaws`,
  `ScriptTutor.Machine.IntervalLaws` — the laws for two operands, for one, and for three.

Main results:

* `ScriptTutor.Machine.turns_unary`, `ScriptTutor.Machine.turns_binary`,
  `ScriptTutor.Machine.turns_within` — what the opcodes make of items that stand for numbers;
* `ScriptTutor.Machine.numeric_coherent` — **the laws hold** of all items that stand for numbers.
-/

import ScriptTutor.Proofs.Machine.TopOp

set_option relaxedAutoImplicit false
set_option autoImplicit false

namespace ScriptTutor

/-! ### The names of the opcodes -/

/-- The name of the opcode of an operation on one number. -/
def Unary.opcodeName : Unary → Text
  | increment => "OP_1ADD"
  | decrement => "OP_1SUB"
  | negate => "OP_NEGATE"
  | absolute => "OP_ABS"
  | isZero => "OP_NOT"
  | isNonzero => "OP_0NOTEQUAL"

/-- The name of the opcode of an operation on two numbers. -/
def Binary.opcodeName : Binary → Text
  | add => "OP_ADD"
  | subtract => "OP_SUB"
  | both => "OP_BOOLAND"
  | either => "OP_BOOLOR"
  | equal => "OP_NUMEQUAL"
  | notEqual => "OP_NUMNOTEQUAL"
  | less => "OP_LESSTHAN"
  | greater => "OP_GREATERTHAN"
  | lessOrEqual => "OP_LESSTHANOREQUAL"
  | greaterOrEqual => "OP_GREATERTHANOREQUAL"
  | minimum => "OP_MIN"
  | maximum => "OP_MAX"

namespace Dispatch

theorem unary_mem (f : Unary) : ⟨f.opcodeName, TopOp.unary f, 1⟩ ∈ table := by
  cases f <;> simp [table, computations, Unary.opcodeName]

theorem binary_mem (f : Binary) : ⟨f.opcodeName, TopOp.binary f, 2⟩ ∈ table := by
  cases f <;> simp [table, computations, Binary.opcodeName]

theorem within_mem : ⟨"OP_WITHIN", TopOp.within, 3⟩ ∈ table := by
  simp [table, computations]

theorem swap_mem : ⟨"OP_SWAP", TopOp.swap, 2⟩ ∈ table := by
  simp [table, moves]

theorem dup_mem : ⟨"OP_DUP", TopOp.dup, 1⟩ ∈ table := by
  simp [table, moves]

end Dispatch

theorem truth_eq_one_iff {b : Bool} : truth b = 1 ↔ b = true := by
  cases b <;> simp [truth]

namespace Machine

/-! ### What the opcodes make of numbers -/

section

variable {x y z : Item} {a b c : Int}

/-- An operation on the number that an item stands for. -/
theorem turns_unary (f : Unary) (hx : x.toNumber = .ok a) :
    Turns (opcodes [f.opcodeName]) [x] [.number (f.eval a)] := by
  refine .of_result? (Dispatch.unary_mem f) ?_
  simp [TopOp.rule, Rule.result?, TopOp.onNumber, hx]

/-- An operation on the numbers that two items stand for, of which `y` lies on top. -/
theorem turns_binary (f : Binary) (hx : x.toNumber = .ok a) (hy : y.toNumber = .ok b) :
    Turns (opcodes [f.opcodeName]) [y, x] [.number (f.eval a b)] := by
  refine .of_result? (Dispatch.binary_mem f) ?_
  simp [TopOp.rule, Rule.result?, TopOp.onNumbers, TopOp.numbers, hx, hy]

/-- Whether a number lies in an interval, whose upper end lies on top and whose lower end lies
below it. -/
theorem turns_within (hx : x.toNumber = .ok a) (hy : y.toNumber = .ok b) (hz : z.toNumber = .ok c) :
    Turns (opcodes ["OP_WITHIN"]) [z, y, x] [.number (truth (liesWithin a b c))] := by
  refine .of_result? Dispatch.within_mem ?_
  simp [TopOp.rule, Rule.result?, TopOp.numbers, hx, hy, hz, Item.ofTruth, truth]

theorem turns_swap (x y : Item) : Turns (opcodes ["OP_SWAP"]) [y, x] [x, y] :=
  .of_result? Dispatch.swap_mem rfl

theorem turns_dup (x : Item) : Turns (opcodes ["OP_DUP"]) [x] [x, x] :=
  .of_result? Dispatch.dup_mem rfl

end

/-! ### The laws -/

/-- The laws for two operands: `x` stands for the number `a` and lies below `y`, which stands for
`b`. -/
structure PairLaws (x y : Item) (a b : Int) : Prop where
  /-- Of the three comparisons exactly one holds. -/
  trichotomy : ∃ less equal greater : Int,
    Turns (opcodes ["OP_LESSTHAN"]) [y, x] [.number less] ∧
    Turns (opcodes ["OP_NUMEQUAL"]) [y, x] [.number equal] ∧
    Turns (opcodes ["OP_GREATERTHAN"]) [y, x] [.number greater] ∧
    (less = 1 ∧ equal = 0 ∧ greater = 0 ∨ less = 0 ∧ equal = 1 ∧ greater = 0 ∨
      less = 0 ∧ equal = 0 ∧ greater = 1)
  /-- The lower operand is less exactly if the difference is negative. -/
  less_iff : ∃ less difference : Int,
    Turns (opcodes ["OP_LESSTHAN"]) [y, x] [.number less] ∧
    Turns (opcodes ["OP_SUB"]) [y, x] [.number difference] ∧ (less = 1 ↔ difference < 0)
  /-- What is subtracted may be added again, in whatever way the number is given. -/
  add_subtract : ∀ z : Item, z.toNumber = .ok b → ∃ difference : Int,
    Turns (opcodes ["OP_SUB"]) [y, x] [.number difference] ∧
    Turns (opcodes ["OP_ADD"]) [z, .number difference] [.number a]
  /-- The lesser and the greater operand are the two operands. -/
  min_max : ∃ least greatest : Int,
    Turns (opcodes ["OP_MIN"]) [y, x] [.number least] ∧
    Turns (opcodes ["OP_MAX"]) [y, x] [.number greatest] ∧
    least ≤ greatest ∧ least + greatest = a + b ∧
    (least = a ∧ greatest = b ∨ least = b ∧ greatest = a)
  /-- One of two holds exactly if their opposites do not both hold. -/
  either : ∃ k : Int,
    Turns (opcodes ["OP_BOOLOR"]) [y, x] [.number k] ∧
    Turns (opcodes ["OP_NOT", "OP_SWAP", "OP_NOT", "OP_BOOLAND", "OP_NOT"]) [y, x] [.number k]

/-- The law for one operand: its size is the greater one of it and its negative. -/
def SingleLaws (x : Item) : Prop :=
  ∃ k : Int, Turns (opcodes ["OP_ABS"]) [x] [.number k] ∧
    Turns (opcodes ["OP_DUP", "OP_NEGATE", "OP_MAX"]) [x] [.number k]

/-- The law for an interval: `x` lies in it exactly if the lower end is at most `x` and `x` is less
than the upper end. -/
def IntervalLaws (x lo hi : Item) : Prop :=
  ∃ inside above below : Int,
    Turns (opcodes ["OP_WITHIN"]) [hi, lo, x] [.number inside] ∧
    Turns (opcodes ["OP_LESSTHANOREQUAL"]) [x, lo] [.number above] ∧
    Turns (opcodes ["OP_LESSTHAN"]) [hi, x] [.number below] ∧
    (inside = 0 ∨ inside = 1) ∧ (inside = 1 ↔ above = 1 ∧ below = 1)

section

variable {x y z : Item} {a b c : Int}

theorem pairLaws (hx : x.toNumber = .ok a) (hy : y.toNumber = .ok b) : PairLaws x y a b where
  trichotomy := by
    refine ⟨_, _, _, turns_binary .less hx hy, turns_binary .equal hx hy,
      turns_binary .greater hx hy, ?_⟩
    simp only [Binary.eval]
    rcases Int.lt_trichotomy a b with h | h | h
    · have hne : a ≠ b := by omega
      have hgt : ¬ a > b := by omega
      simp [truth, h, hne, hgt]
    · simp [truth, h]
    · have hne : a ≠ b := by omega
      have hlt : ¬ a < b := by omega
      simp [truth, h, hne, hlt]
  less_iff := by
    refine ⟨_, _, turns_binary .less hx hy, turns_binary .subtract hx hy, ?_⟩
    rw [Binary.eval, Binary.eval, truth_eq_one_iff, decide_eq_true_eq]
    omega
  add_subtract := by
    intro z hz
    refine ⟨_, turns_binary .subtract hx hy, ?_⟩
    have hadd := turns_binary (x := .number (Binary.subtract.eval a b)) .add rfl hz
    have hback : Binary.add.eval (Binary.subtract.eval a b) b = a := Int.sub_add_cancel a b
    rw [hback] at hadd
    exact hadd
  min_max := by
    refine ⟨_, _, turns_binary .minimum hx hy, turns_binary .maximum hx hy, ?_⟩
    simp only [Binary.eval]
    omega
  either := by
    refine ⟨_, turns_binary .either hx hy, ?_⟩
    -- the negations are made one after the other, with a swap between them
    have hnotY := (turns_unary .isZero hy).above [x]
    have hnotX := (turns_unary .isZero hx).above [.number (Unary.isZero.eval b)]
    have hboth := turns_binary .both (Item.toNumber_number (Unary.isZero.eval b))
      (Item.toNumber_number (Unary.isZero.eval a))
    have hnot := turns_unary .isZero (Item.toNumber_number
      (Binary.both.eval (Unary.isZero.eval b) (Unary.isZero.eval a)))
    have hk : Unary.isZero.eval (Binary.both.eval (Unary.isZero.eval b) (Unary.isZero.eval a)) =
        Binary.either.eval a b := by
      by_cases ha : a = 0 <;> by_cases hb : b = 0 <;> simp [Unary.eval, Binary.eval, truth, ha, hb]
    rw [hk] at hnot
    exact hnotY.append ((turns_swap _ _).append (hnotX.append (hboth.append hnot)))

theorem singleLaws (hx : x.toNumber = .ok a) : SingleLaws x := by
  refine ⟨_, turns_unary .absolute hx, ?_⟩
  have hnegate := (turns_unary .negate hx).above [x]
  have hmax := turns_binary .maximum hx (Item.toNumber_number (Unary.negate.eval a))
  have hk : Binary.maximum.eval a (Unary.negate.eval a) = Unary.absolute.eval a := by
    simp only [Binary.eval, Unary.eval]
    omega
  rw [hk] at hmax
  exact (turns_dup x).append (hnegate.append hmax)

theorem intervalLaws (hx : x.toNumber = .ok a) (hy : y.toNumber = .ok b)
    (hz : z.toNumber = .ok c) : IntervalLaws x y z := by
  refine ⟨_, _, _, turns_within hx hy hz, turns_binary .lessOrEqual hy hx,
    turns_binary .less hx hz, ?_, ?_⟩
  · cases liesWithin a b c <;> simp [truth]
  · simp [Binary.eval, truth_eq_one_iff, liesWithin]

end

/-- **The numeric opcodes are coherent.**  They obey the laws of the integers that items stand for,
whatever the kinds of the items, and leave all that lies below their operands. -/
theorem numeric_coherent :
    (∀ (x y : Item) (a b : Int), x.toNumber = .ok a → y.toNumber = .ok b → PairLaws x y a b) ∧
    (∀ (x : Item) (a : Int), x.toNumber = .ok a → SingleLaws x) ∧
    (∀ (x lo hi : Item) (a b c : Int), x.toNumber = .ok a → lo.toNumber = .ok b →
      hi.toNumber = .ok c → IntervalLaws x lo hi) :=
  ⟨fun _ _ _ _ => pairLaws, fun _ _ => singleLaws, fun _ _ _ _ _ _ => intervalLaws⟩

/-- The laws hold of a text and the bytes of a script number, of a truth value, and of an interval
from empty bytes to a hexadecimal text. -/
theorem numeric_coherent_mixed :
    PairLaws (.text "-7") (.bytes [0x87]) (-7) (-7) ∧ SingleLaws (.flag true) ∧
      IntervalLaws (.flag true) (.bytes []) (.text "0x2") :=
  ⟨numeric_coherent.1 _ _ _ _ rfl rfl, numeric_coherent.2.1 _ 1 rfl,
    numeric_coherent.2.2 _ _ _ 1 0 2 rfl rfl rfl⟩

end Machine

end ScriptTutor
