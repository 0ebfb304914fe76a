/-
**Values read by the rules for items.**

The rules for items extend to the other values as far as they go; where they do not, the call has
no result.

Main definitions:

* `ScriptTutor.Value.isTrue`, `ScriptTutor.Value.toNumber`, `ScriptTutor.Value.toBytes` — the
  readings of a value;
* `ScriptTutor.Value.holds`, `ScriptTutor.Value.isTruth` — the truth of a value of any kind, and
  whether it equals a truth value;
* `ScriptTutor.Value.equal`, `ScriptTutor.Value.stacksEqual` — equality of values and of
  sequences of them.
-/

import ScriptTutor.Item.Reading
import ScriptTutor.Value.Quantity
import ScriptTutor.Value.Quoted

set_option relaxedAutoImplicit false
set_option autoImplicit false

namespace ScriptTutor.Value

/-- The truth of a value: a sequence is true if it has an element. -/
def isTrue : Value → Except Fault Bool
  | item x => .ok x.isTrue
  | buffer bs => .ok (!bs.isEmpty)
  | view bs => .ok (!bs.isEmpty)
  | released => .error .released
  | list xs => .ok (!xs.isEmpty)
  | tuple xs => .ok (!xs.isEmpty)
  | mapping => .ok false
  | real _ => .error .wrongKind
  | absent => .error .wrongKind

/-- Whether a value counts as true where fractions and the absent value have a truth as well: zero,
the absent value and what has no element count as false. -/
def holds : Value → Except Fault Bool
  | real x => .ok (!x.isZero)
  | absent => .ok false
  | v => v.isTrue

/-- Whether a value equals a truth value; a quantity does so if it is the one or the zero that the
truth value counts as. -/
def isTruth (v : Value) (b : Bool) : Bool := v.equals (if b then 1 else 0)

/-- The number that a value stands for; only items stand for numbers. -/
def toNumber : Value → Except Fault Int
  | item x =>
    match x.toNumber with
    | .ok n => .ok n
    | .error f => .error (.failure f)
  | v =>
    match v.quote with
    | .ok t => .error (.failure (.notANumber t))
    | .error e => .error e

/-- The bytes of a value; only items have bytes. -/
def toBytes : Value → Except Fault Bytes
  | item x => .ok x.toBytes
  | _ => .error .wrongKind

/-- The item that a typed value stands for.  Byte strings can be trimmed, but not matched. -/
def typed : Value → Except Fault (Option Item)
  | item (.text t) => .ok (Item.ofTyped? t)
  | item (.bytes _) => .error .wrongKind
  | buffer _ => .error .wrongKind
  | _ => .error .noMember

/-- Equality of values; only items can be compared. -/
def equal : Value → Value → Except Fault Bool
  | item x, item y => .ok (x.equal y)
  | _, _ => .error .wrongKind

/-- Compares the values of two lists pair by pair, up to the first pair that differs. -/
def allEqual : List Value → List Value → Except Fault Bool
  | v :: vs, w :: ws =>
    match equal v w with
    | .ok true => allEqual vs ws
    | r => r
  | _, _ => .ok true

/-- Equality of sequences: lengths first, then the elements. -/
def stacksEqual (vs ws : List Value) : Except Fault Bool :=
  if vs.length = ws.length then allEqual vs ws else .ok false

/-- Equality of values that should be sequences. -/
def sequencesEqual (v w : Value) : Except Fault Bool :=
  match v.elements, w.elements with
  | .ok vs, .ok ws => stacksEqual vs ws
  | .error e, _ => .error e
  | _, .error e => .error e

/-- On items, equality of sequences is equality of items one by one. -/
theorem stacksEqual_items (xs ys : List Item) :
    stacksEqual (xs.map item) (ys.map item) = .ok (Item.allEqual xs ys) := by
  induction xs generalizing ys with
  | nil => cases ys <;> simp [stacksEqual, allEqual, Item.allEqual]
  | cons x xs ih =>
      cases ys with
      | nil => simp [stacksEqual, Item.allEqual]
      | cons y ys =>
          have := ih ys
          by_cases hl : xs.length = ys.length
          · cases hxy : x.equal y <;>
              simp_all [stacksEqual, allEqual, equal, Item.allEqual]
          · simp_all [stacksEqual, Item.allEqual]

end ScriptTutor.Value
