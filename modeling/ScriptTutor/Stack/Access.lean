/-
**Direct use of a stack.**

A caller may use a stack without a script.  Each use gives a result or a fault, and says what the
stack is afterwards; a use that faults keeps what it had done before.

Main definitions:

* `ScriptTutor.Stack.Use` — a use of a stack;
* `ScriptTutor.Stack.ofValue` — the stack that a caller starts from;
* `ScriptTutor.Stack.push`, `ScriptTutor.Stack.pop`, `ScriptTutor.Stack.peek` and their relatives.
-/

import ScriptTutor.Stack.Basic
import ScriptTutor.Value.Shortage

set_option relaxedAutoImplicit false
set_option autoImplicit false

namespace ScriptTutor.Stack

/-- A use of a stack gives a result or a fault, and the stack afterwards. -/
abbrev Use (α : Type) := Stack → Except Fault α × Stack

/-- Asks for at least as many items as the first value says, on behalf of the operation that the
second one names. -/
def checkHeight (required operation : Value) (s : Stack) : Except Fault Unit :=
  match required.isAbove s.length with
  | .ok false => .ok ()
  | .ok true =>
    match Value.shortageText required (.ofNat s.length) operation with
    | .ok message => .error (.shortage message)
    | .error e => .error e
  | .error e => .error e

def push (v : Value) : Use Unit := fun s =>
  match v.toItem with
  | .ok x => (.ok (), x :: s)
  | .error e => (.error e, s)

/-- Puts the values on top one after the other, up to the first that cannot be an item. -/
def pushAll : List Value → Use Unit
  | [], s => (.ok (), s)
  | v :: vs, s =>
    match push v s with
    | (.ok (), s') => pushAll vs s'
    | r => r

/-- The stack that a caller starts from: empty, unless the value has elements to push. -/
def ofValue (v : Value) : Except Fault Stack :=
  match v.holds, v.elements with
  | .error e, _ => .error e
  | .ok false, _ => .ok []
  | .ok true, .error e => .error e
  | .ok true, .ok vs =>
    match pushAll vs [] with
    | (.ok (), s) => .ok s
    | (.error e, _) => .error e

def pop : Use Item := fun s =>
  match s with
  | x :: t => (.ok x, t)
  | [] => (.error (.failure (.underflow 1 0 [])), [])

/-- Takes a number of items off, the former top first; nothing is taken for a negative number. -/
def popMany (number : Value) : Use (List Item) := fun s =>
  match checkHeight number .absent s with
  | .ok () =>
    match number.count with
    | .ok n => (.ok (s.take n.toNat), s.drop n.toNat)
    | .error e => (.error e, s)
  | .error e => (.error e, s)

/-- The item at a depth, which is zero for the top.  A negative depth counts from the bottom,
which is at depth -1. -/
def itemAt (depth : Int) (s : Stack) : Except Fault Item :=
  match if 0 ≤ depth then s[depth.toNat]? else s.snapshot[(-1 - depth).toNat]? with
  | some x => .ok x
  | none => .error .outOfRange

/-- The item at a depth for which the stack has to be high enough. -/
def peek (depth : Value) (s : Stack) : Except Fault Item :=
  match depth.next with
  | .error e => .error e
  | .ok height =>
    match checkHeight height .absent s with
    | .error e => .error e
    | .ok () =>
      match depth.count with
      | .ok d => itemAt d s
      | .error e => .error e

/-- Takes the top item off and reads it as a number; the item is gone even if it is none. -/
def popNumber : Use Int := fun s =>
  match pop s with
  | (.ok x, t) =>
    match x.toNumber with
    | .ok n => (.ok n, t)
    | .error f => (.error (.failure f), t)
  | (.error e, t) => (.error e, t)

/-- Puts the number on top that stands for the truth of the value. -/
def pushTruth (v : Value) : Use Unit := fun s =>
  match v.holds with
  | .ok b => (.ok (), Item.ofTruth b :: s)
  | .error e => (.error e, s)

def shown (s : Stack) : Except Fault Text :=
  (Item.quoteAll s.snapshot).map fun t => "LabStack(" ++ t ++ ")"

end ScriptTutor.Stack
