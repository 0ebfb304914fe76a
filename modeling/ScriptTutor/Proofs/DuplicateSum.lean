/-
**A sum that is compared as bytes.**

One challenge of the collection duplicates two items, adds the copies, and compares the sum with the
upper one of the items.  It means to ask for a zero below: `m + n = n` only if `m = 0`.  But the sum
is made of the number that the upper item stands for, and it is compared with the bytes of that
item.  A text has bytes that need not be those of its number: `"5"` stands for five, and its one
byte is that of the number 53.  So the challenge asks for the difference of the two readings, and
with `"5"` on top it accepts 48 below.

Main results:

* `ScriptTutor.Item.toNumber_eq_decode` — only the two readings of a text can differ;
* `ScriptTutor.Machine.passes_duplicateSum_iff` — when the two scripts run through, and what they
  leave;
* `ScriptTutor.Challenge.duplicateSum_solved` — **what the challenge accepts**, and when the item
  below has to be zero;
* `ScriptTutor.Challenge.duplicateSum_five` — it accepts another number.
-/

import ScriptTutor.Challenge.Assessment
import ScriptTutor.Challenge.Collection
import ScriptTutor.Proofs.Arithmetic
import ScriptTutor.Proofs.Representation.Item

set_option relaxedAutoImplicit false
set_option autoImplicit false

namespace ScriptTutor

/-- The number of an item that is no text is the one that its bytes denote. -/
theorem Item.toNumber_eq_decode {x : Item} (h : ∀ t, x ≠ .text t) :
    x.toNumber = .ok (ScriptNumber.decode x.toBytes) := by
  cases x with
  | number n => exact congrArg Except.ok (ScriptNumber.decode_encode n).symm
  | flag b => cases b <;> rfl
  | text t => exact absurd rfl (h t)
  | bytes bs => rfl

namespace Machine

/-! ### The two scripts -/

def duplicateSum : List Value :=
  [.item (.text "OP_2DUP"), .item (.text "OP_ADD"), .item (.text "OP_EQUAL")]

/-- Two literals and the locking script run through exactly if both literals are numbers, and the
comparison leaves its outcome above the lower literal. -/
theorem passes_duplicateSum_iff {a b : Value} {x y : Item} {m' : Machine}
    (ha : Instruction.ofValue a = .ok (.literal x))
    (hb : Instruction.ofValue b = .ok (.literal y)) :
    Passes (a :: b :: duplicateSum) start m' ↔
      ∃ m n, x.toNumber = .ok m ∧ y.toNumber = .ok n ∧
        ⟨⟨[.ofTruth (Item.equal (.number (m + n)) y), x], []⟩, []⟩ = m' := by
  have hdup : Names "OP_2DUP" .dup2 := by decide +kernel
  have hadd : Names "OP_ADD" (.binary .add) := by decide +kernel
  have hequal : Names "OP_EQUAL" .equal := by decide +kernel
  have hsum : ∀ items rest, (TopOp.binary .add).rule.result? [y, x, y, x] = some (.ok items, rest) ↔
      ∃ m n, x.toNumber = .ok m ∧ y.toNumber = .ok n ∧ items = [.number (m + n)] ∧
        rest = [y, x] := by
    intro items rest
    cases hy : y.toNumber with
    | error f => simp [TopOp.rule, Rule.result?, TopOp.onNumbers, TopOp.numbers, hy]
    | ok n =>
        cases hx : x.toNumber with
        | error f => simp [TopOp.rule, Rule.result?, TopOp.onNumbers, TopOp.numbers, hx, hy]
        | ok m =>
            simp [TopOp.rule, Rule.result?, TopOp.onNumbers, TopOp.numbers, hx, hy, Binary.eval,
              eq_comm]
  rw [start, passes_literal_iff ha rfl, passes_literal_iff hb rfl, duplicateSum,
    passes_onTop_of_result hdup rfl rfl, passes_onTop_iff hadd rfl]
  simp only [List.cons_append, List.nil_append, hsum]
  constructor
  · rintro ⟨_, _, ⟨m, n, hm, hn, rfl, rfl⟩, hp⟩
    exact ⟨m, n, hm, hn, passes_nil_iff.1 ((passes_onTop_of_result hequal rfl rfl).1 hp)⟩
  · rintro ⟨m, n, hm, hn, hm'⟩
    exact ⟨_, _, ⟨m, n, hm, hn, rfl, rfl⟩,
      (passes_onTop_of_result hequal rfl rfl).2 (passes_nil_iff.2 hm')⟩

end Machine

/-- The program of the two scripts is a success exactly if both literals are numbers whose sum has
the bytes of the upper one. -/
theorem Engine.executeList_duplicateSum_iff {a b : Value} {x y : Item}
    (ha : Instruction.ofValue a = .ok (.literal x))
    (hb : Instruction.ofValue b = .ok (.literal y)) :
    (∃ r e, executeList (a :: b :: Machine.duplicateSum) = (.ok r, e) ∧ r.success = true) ↔
      ∃ m n, x.toNumber = .ok m ∧ y.toNumber = .ok n ∧
        y.toBytes = ScriptNumber.encode (m + n) := by
  have hbytes : ∀ m n : Int, (Item.number (m + n)).equal y = true ↔
      y.toBytes = ScriptNumber.encode (m + n) := by
    intro m n
    rw [Item.equal_iff_toBytes]
    exact eq_comm
  simp only [executeList_success_iff, Machine.passes_duplicateSum_iff ha hb, objection?_eq_none_iff]
  constructor
  · rintro ⟨r, e, ⟨m, n, hm, hn, he⟩, ⟨-, z, rest, hmain, htrue⟩, -, -⟩
    rw [← he] at hmain
    cases hmain
    rw [Item.isTrue_ofTruth] at htrue
    exact ⟨m, n, hm, hn, (hbytes m n).1 htrue⟩
  · rintro ⟨m, n, hm, hn, hsum⟩
    refine ⟨_, ⟨_, _⟩, ⟨m, n, hm, hn, rfl⟩, ⟨rfl, _, _, rfl, ?_⟩, rfl, rfl⟩
    rw [Item.isTrue_ofTruth]
    exact (hbytes m n).2 hsum

namespace Challenge

theorem find_duplicateSum :
    ∃ c, find (.item (.text "hard-unlock-2dup-add-equal")) = .ok c ∧
      ∃ locking, c.task = .unlock locking ∧ locking.elements = .ok Machine.duplicateSum :=
  ⟨_, rfl, _, rfl, rfl⟩

/-- **What the challenge accepts.**  Two literals are assessed on every engine.  They solve the
challenge exactly if both are numbers and the upper one has the bytes of their sum.  So the lower
one stands for the difference between the number that the bytes of the upper one denote and the
number that the upper one stands for.  It has to be zero if the upper one is no text, and for a text
if the two readings of it are the same. -/
theorem duplicateSum_solved {a b : Value} {x y : Item}
    (ha : Instruction.ofValue a = .ok (.literal x)) (hb : Instruction.ofValue b = .ok (.literal y))
    (e : Engine) :
    ∃ c result f, find (.item (.text "hard-unlock-2dup-add-equal")) = .ok c ∧
      c.validate (.unlocking (.list [a, b])) e = (.ok result, f) ∧
      (result.solved = true ↔ ∃ m n, x.toNumber = .ok m ∧ y.toNumber = .ok n ∧
        y.toBytes = ScriptNumber.encode (m + n)) ∧
      (result.solved = true →
        (x.toNumber = .ok 0 ↔ y.toNumber = .ok (ScriptNumber.decode y.toBytes))) ∧
      ((∀ t, y ≠ .text t) → result.solved = true → x.toNumber = .ok 0) := by
  obtain ⟨c, hc, locking, htask, hlocking⟩ := find_duplicateSum
  have hitems : ∀ v ∈ a :: b :: Machine.duplicateSum, v.IsItem := by
    simp only [List.forall_mem_cons]
    exact ⟨Instruction.isItem_of_ofValue ha, Instruction.isItem_of_ofValue hb,
      by simp [Machine.duplicateSum, Value.IsItem]⟩
  obtain ⟨r, f, hrun⟩ := Engine.exists_report_of_isItem hitems
  have hvalidate : c.validate (.unlocking (.list [a, b])) e = (.ok (Assessment.ofReport r), f) := by
    have hpair : e.executePair (.list [a, b]) locking = (.ok r, f) := by
      simp only [Engine.executePair, Value.elements_list, hlocking]
      exact hrun
    simp only [validate, htask, Task.scripts?, hpair]
    rfl
  have hsolved : r.success = true ↔ ∃ m n, x.toNumber = .ok m ∧ y.toNumber = .ok n ∧
      y.toBytes = ScriptNumber.encode (m + n) := by
    rw [← Engine.executeList_duplicateSum_iff ha hb]
    constructor
    · intro h
      exact ⟨r, f, hrun, h⟩
    · rintro ⟨_, _, h, hs⟩
      cases hrun.symm.trans h
      exact hs
  have hzero : r.success = true →
      (x.toNumber = .ok 0 ↔ y.toNumber = .ok (ScriptNumber.decode y.toBytes)) := by
    intro h
    obtain ⟨m, n, hm, hn, hsum⟩ := hsolved.1 h
    rw [hm, hn, hsum, ScriptNumber.decode_encode, Except.ok.injEq, Except.ok.injEq]
    omega
  refine ⟨c, Assessment.ofReport r, f, hc, hvalidate, hsolved, hzero, ?_⟩
  intro htext h
  exact (hzero h).2 (Item.toNumber_eq_decode htext)

/-- The false flag is accepted below a text of hexadecimal digits, whose two readings are the same,
and it stands for zero. -/
theorem duplicateSum_solved_zero :
    ∃ c result f, find (.item (.text "hard-unlock-2dup-add-equal")) = .ok c ∧
      c.validate (.unlocking (.list [.item (.flag false), .item (.text "0x07")])) Engine.fresh =
        (.ok result, f) ∧
      result.solved = true ∧ Item.toNumber (.flag false) = .ok 0 := by
  have hflag : Instruction.ofValue (.item (.flag false)) = .ok (.literal (.flag false)) := rfl
  have htext : Instruction.ofValue (.item (.text "0x07")) = .ok (.literal (.text "0x07")) := rfl
  obtain ⟨c, result, f, hc, hvalidate, hsolved, hzero, -⟩ :=
    duplicateSum_solved hflag htext Engine.fresh
  have hs : result.solved = true := hsolved.2 ⟨0, 7, rfl, rfl, rfl⟩
  exact ⟨c, result, f, hc, hvalidate, hs, (hzero hs).2 rfl⟩

/-- The challenge accepts 48 below the text `5`. -/
theorem duplicateSum_five :
    ¬ ∀ (a b : Value) (x y : Item) (c : Challenge) (result : Assessment) (f : Engine),
      Instruction.ofValue a = .ok (.literal x) → Instruction.ofValue b = .ok (.literal y) →
      find (.item (.text "hard-unlock-2dup-add-equal")) = .ok c →
      c.validate (.unlocking (.list [a, b])) Engine.fresh = (.ok result, f) →
      result.solved = true → x.toNumber = .ok 0 := by
  intro h
  have hzero := h (.item (.number 48)) (.item (.text "5")) (.number 48) (.text "5") _ _ _ rfl rfl
    rfl rfl (by decide +kernel)
  cases hzero

end Challenge

end ScriptTutor
