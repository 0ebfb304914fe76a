/-
**Quantities among the values.**

Integers, truth values and binary fractions are quantities: they can be compared with an integer.
Integers and truth values are counts as well: a number of items, a depth, a position.
-/

import ScriptTutor.Value.Basic

set_option relaxedAutoImplicit false
set_option autoImplicit false

namespace ScriptTutor.Value

/-- How a quantity compares with an integer; there is no answer for the result of an undefined
operation. -/
def compareTo (n : Int) : Value → Except Fault (Option Ordering)
  | item (.number m) => .ok (some (compare m n))
  | item (.flag b) => .ok (some (compare (if b then 1 else 0) n))
  | real x => .ok (x.compareTo n)
  | _ => .error .wrongKind

def isBelow (n : Int) (v : Value) : Except Fault Bool := (v.compareTo n).map (· == some .lt)

def isAbove (n : Int) (v : Value) : Except Fault Bool := (v.compareTo n).map (· == some .gt)

/-- Whether a value equals an integer; only quantities do. -/
def equals (n : Int) (v : Value) : Bool :=
  match v.compareTo n with
  | .ok order => order == some .eq
  | .error _ => false

/-- The integer that a count is. -/
def count : Value → Except Fault Int
  | item (.number n) => .ok n
  | item (.flag b) => .ok (if b then 1 else 0)
  | _ => .error .wrongKind

/-- The quantity that is greater by one. -/
def next : Value → Except Fault Value
  | item (.number n) => .ok (item (.number (n + 1)))
  | item (.flag b) => .ok (item (.number (if b then 2 else 1)))
  | real x => .ok (real x.next)
  | _ => .error .wrongKind

theorem isBelow_number (m n : Int) : (item (.number m)).isBelow n = .ok (decide (m < n)) := by
  have h : compare m n = compareOfLessAndEq m n := rfl
  simp only [isBelow, compareTo, Except.map, h, compareOfLessAndEq]
  split
  · simp [*]
  · split <;> simp [*]

theorem isAbove_number (m n : Int) : (item (.number m)).isAbove n = .ok (decide (n < m)) := by
  have h : compare m n = compareOfLessAndEq m n := rfl
  simp only [isAbove, compareTo, Except.map, h, compareOfLessAndEq]
  split
  · have : ¬ n < m := by omega
    simp [this]
  · split
    · simp [*]
    · have : n < m := by omega
      simp [this]

end ScriptTutor.Value
