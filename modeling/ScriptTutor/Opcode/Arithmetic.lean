/-
**The arithmetic of the opcodes.**

A comparison is arithmetic, too: its result is the number one or zero.

Main definitions:

* `ScriptTutor.truth` — the number of a truth value;
* `ScriptTutor.Unary`, `ScriptTutor.Unary.eval` — the operations on one number;
* `ScriptTutor.Binary`, `ScriptTutor.Binary.eval` — the operations on two numbers;
* `ScriptTutor.liesWithin` — whether a number lies in a half-open interval.
-/

set_option relaxedAutoImplicit false
set_option autoImplicit false

namespace ScriptTutor

/-- One for a condition that holds, and zero for one that does not. -/
def truth (b : Bool) : Int := if b then 1 else 0

inductive Unary where
  | increment
  | decrement
  | negate
  | absolute
  | isZero
  | isNonzero
  deriving DecidableEq

def Unary.eval : Unary → Int → Int
  | increment, n => n + 1
  | decrement, n => n - 1
  | negate, n => -n
  | absolute, n => n.natAbs
  | isZero, n => truth (n == 0)
  | isNonzero, n => truth (n != 0)

inductive Binary where
  | add
  | subtract
  | both
  | either
  | equal
  | notEqual
  | less
  | greater
  | lessOrEqual
  | greaterOrEqual
  | minimum
  | maximum
  deriving DecidableEq

/-- The result of an operation on two numbers, of which `m` lies below `n` on the stack. -/
def Binary.eval : Binary → Int → Int → Int
  | add, m, n => m + n
  | subtract, m, n => m - n
  | both, m, n => truth (m != 0 && n != 0)
  | either, m, n => truth (m != 0 || n != 0)
  | equal, m, n => truth (m == n)
  | notEqual, m, n => truth (m != n)
  | less, m, n => truth (decide (m < n))
  | greater, m, n => truth (decide (n < m))
  | lessOrEqual, m, n => truth (decide (m ≤ n))
  | greaterOrEqual, m, n => truth (decide (n ≤ m))
  | minimum, m, n => min m n
  | maximum, m, n => max m n

/-- Whether `x` lies between `lo` and `hi`; `lo` itself does, `hi` does not. -/
def liesWithin (x lo hi : Int) : Bool := decide (lo ≤ x) && decide (x < hi)

end ScriptTutor
