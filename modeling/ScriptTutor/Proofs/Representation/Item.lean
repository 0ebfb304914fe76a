/-
**Items that stand for the same bytes.**

A number, a truth value and a byte string may be three ways to write the same thing.  The canonical
form of an item writes numbers and truth values as the shortest script numbers, and leaves texts and
byte strings alone.  Every reading of an item gives the same for its canonical form, so nothing that
reads items can tell two of them apart that have the same canonical form.

Main definitions:

* `ScriptTutor.Item.canonical` — the item with numbers and truth values written as bytes;
* `ScriptTutor.Rule.IsBlind` — a rule makes the same of items with the same canonical form.

Main results:

* `ScriptTutor.Item.toNumber_canonical`, `ScriptTutor.Item.toBytes_canonical`,
  `ScriptTutor.Item.isTrue_canonical`, `ScriptTutor.Item.equal_canonical` — the canonical form is
  read like the item itself;
* `ScriptTutor.TopOp.isBlind` — **all opcodes on the top of the stack are blind**.
-/

import ScriptTutor.Opcode.TopOp

set_option relaxedAutoImplicit false
set_option autoImplicit false

namespace ScriptTutor

/-! ### The canonical form of an item -/

theorem ScriptNumber.encode_eq_nil_iff (n : Int) : encode n = [] ↔ n = 0 := by
  constructor
  · intro h
    exact encode_injective h
  · rintro rfl
    rfl

namespace Item

/-- The item with numbers and truth values written as bytes. -/
def canonical : Item → Item
  | number n => bytes (ScriptNumber.encode n)
  | flag b => bytes (ScriptNumber.encode (truth b))
  | text t => text t
  | bytes bs => bytes bs

@[simp] theorem canonical_canonical (x : Item) : x.canonical.canonical = x.canonical := by
  cases x <;> rfl

@[simp] theorem isTrue_canonical (x : Item) : x.canonical.isTrue = x.isTrue := by
  cases x with
  | number n =>
      rw [canonical, isTrue, isTrue, Bool.eq_iff_iff, Bool.not_eq_true', List.isEmpty_eq_false_iff,
        bne_iff_ne]
      exact not_congr (ScriptNumber.encode_eq_nil_iff n)
  | flag b => cases b <;> rfl
  | text t => rfl
  | bytes bs => rfl

@[simp] theorem toNumber_canonical (x : Item) : x.canonical.toNumber = x.toNumber := by
  cases x with
  | number n => exact congrArg Except.ok (ScriptNumber.decode_encode n)
  | flag b => exact congrArg Except.ok (ScriptNumber.decode_encode (truth b))
  | text t => rfl
  | bytes bs => rfl

@[simp] theorem toBytes_canonical (x : Item) : x.canonical.toBytes = x.toBytes := by
  cases x with
  | number n => rfl
  | flag b => cases b <;> rfl
  | text t => rfl
  | bytes bs => rfl

theorem toBytes_of_numeric? {x : Item} {n : Int} (h : x.numeric? = some n) :
    x.toBytes = ScriptNumber.encode n := by
  cases x with
  | number m =>
      cases h
      rfl
  | flag b =>
      cases h
      cases b <;> rfl
  | text t => cases h
  | bytes bs => cases h

/-- Items are equal exactly if their bytes are, whichever way they are compared. -/
theorem equal_eq_toBytes (x y : Item) : x.equal y = (x.toBytes == y.toBytes) := by
  cases hx : x.numeric? with
  | none => rw [equal, hx]
  | some m =>
      cases hy : y.numeric? with
      | none => rw [equal, hx, hy]
      | some n =>
          rw [toBytes_of_numeric? hx, toBytes_of_numeric? hy, Bool.eq_iff_iff]
          simp only [equal, hx, hy, beq_iff_eq]
          constructor
          · rintro rfl
            rfl
          · exact ScriptNumber.encode_injective

theorem equal_iff_toBytes {x y : Item} : x.equal y = true ↔ x.toBytes = y.toBytes := by
  rw [equal_eq_toBytes, beq_iff_eq]

@[simp] theorem equal_canonical (x y : Item) : x.canonical.equal y.canonical = x.equal y := by
  rw [equal_eq_toBytes, equal_eq_toBytes, toBytes_canonical, toBytes_canonical]

end Item

/-! ### Rules that do not see the representation -/

/-- What takes the place of the operands, in its canonical form. -/
def Replacement.canonical (x : Replacement) : Replacement := x.map (List.map Item.canonical)

namespace Rule

/-- The rule makes the same of its operands and of their canonical forms, up to the canonical form
of the result. -/
def IsBlind : Rule → Prop
  | zero _ => True
  | one f => ∀ a, Replacement.canonical (f a.canonical) = Replacement.canonical (f a)
  | two f => ∀ a b,
    Replacement.canonical (f a.canonical b.canonical) = Replacement.canonical (f a b)
  | three f => ∀ a b c,
    Replacement.canonical (f a.canonical b.canonical c.canonical) =
      Replacement.canonical (f a b c)
  | four f => ∀ a b c d,
    Replacement.canonical (f a.canonical b.canonical c.canonical d.canonical) =
      Replacement.canonical (f a b c d)

end Rule

/-! ### The opcodes on the top of the stack -/

namespace TopOp

@[simp] theorem numbers_canonical (a b : Item) : numbers a.canonical b.canonical = numbers a b := by
  simp only [numbers, Item.toNumber_canonical]

@[simp] theorem onNumber_canonical (f : Int → Int) (a : Item) :
    onNumber f a.canonical = onNumber f a := by
  simp only [onNumber, Item.toNumber_canonical]

@[simp] theorem onNumbers_canonical (f : Int → Int → Int) (a b : Item) :
    onNumbers f a.canonical b.canonical = onNumbers f a b := by
  simp only [onNumbers, numbers_canonical]

/-- **All opcodes on the top of the stack are blind.**  Those that read their operands read the
same, and the others put them back. -/
theorem isBlind (o : TopOp) : o.rule.IsBlind := by
  cases o with
  | push n => trivial
  | nop => trivial
  | ifDup =>
      intro a
      simp only [Item.isTrue_canonical]
      split <;> simp [Replacement.canonical, Except.map]
  | within =>
      intro a b c
      simp only [Item.toNumber_canonical, numbers_canonical]
  | _ => simp [rule, Rule.IsBlind, Replacement.canonical, Except.map]

end TopOp

end ScriptTutor
