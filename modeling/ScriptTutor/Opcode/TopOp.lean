/-
**Opcodes that replace the top of the stack.**

Nearly every opcode takes a fixed number of items off the main stack and puts back what it makes
of them.  Such an opcode is given by its operands and a function on them; it neither sees nor
changes what lies below.  If the function fails, the operands are gone and nothing is put back.

Main definitions:

* `ScriptTutor.Rule` — a function on the topmost items;
* `ScriptTutor.Rule.arity`, `ScriptTutor.Rule.result?` — its number of operands, and its effect;
* `ScriptTutor.TopOp` — the opcodes of this kind;
* `ScriptTutor.TopOp.rule` — what each of them does.

Main results:

* `ScriptTutor.Rule.result?_eq_none_iff` — **a rule applies** exactly if its operands are there;
* `ScriptTutor.Rule.result?_append` — what lies below the operands does not matter.
-/

import ScriptTutor.Digest.Basic
import ScriptTutor.Item.Reading
import ScriptTutor.Opcode.Arithmetic
import ScriptTutor.Stack.Basic

set_option relaxedAutoImplicit false
set_option autoImplicit false

namespace ScriptTutor

/-! ### Rules -/

/-- What takes the place of the operands, top first, or why nothing does. -/
abbrev Replacement := Except Failure (List Item)

/-- A function on a fixed number of topmost items; the first argument is the top. -/
inductive Rule where
  | zero (result : Replacement)
  | one (f : Item → Replacement)
  | two (f : Item → Item → Replacement)
  | three (f : Item → Item → Item → Replacement)
  | four (f : Item → Item → Item → Item → Replacement)

namespace Rule

def arity : Rule → Nat
  | zero _ => 0
  | one _ => 1
  | two _ => 2
  | three _ => 3
  | four _ => 4

/-- What the rule makes of its operands, and the stack below them; nothing if the stack is too
short. -/
def result? : Rule → Stack → Option (Replacement × Stack)
  | zero result, s => some (result, s)
  | one f, a :: s => some (f a, s)
  | two f, a :: b :: s => some (f a b, s)
  | three f, a :: b :: c :: s => some (f a b c, s)
  | four f, a :: b :: c :: d :: s => some (f a b c d, s)
  | _, _ => none

/-- **A rule applies** exactly if its operands are there. -/
theorem result?_eq_none_iff (r : Rule) (s : Stack) : r.result? s = none ↔ s.length < r.arity := by
  rcases r with _ | _ | _ | _ | _ <;> rcases s with _ | ⟨_, _ | ⟨_, _ | ⟨_, _ | _⟩⟩⟩ <;>
    grind [result?, arity]

theorem eq_drop_of_result? {r : Rule} {s t : Stack} {x : Replacement}
    (h : r.result? s = some (x, t)) : t = s.drop r.arity := by
  rcases r with _ | _ | _ | _ | _ <;> rcases s with _ | ⟨_, _ | ⟨_, _ | ⟨_, _ | _⟩⟩⟩ <;>
    simp_all [result?, arity]

/-- What lies below the operands does not matter. -/
theorem result?_append {r : Rule} {s t : Stack} {x : Replacement}
    (h : r.result? s = some (x, t)) (below : Stack) :
    r.result? (s ++ below) = some (x, t ++ below) := by
  rcases r with _ | _ | _ | _ | _ <;> rcases s with _ | ⟨_, _ | ⟨_, _ | ⟨_, _ | _⟩⟩⟩ <;>
    simp_all [result?]

end Rule

/-! ### Opcodes -/

inductive TopOp where
  | push (n : Int)
  | nop
  | drop
  | drop2
  | dup
  | dup2
  | dup3
  | over1
  | over2
  | swap
  | swap2
  | rot
  | nip
  | tuck
  | ifDup
  | size
  | verify
  | equal
  | equalVerify
  | unary (f : Unary)
  | binary (f : Binary)
  | numEqualVerify
  | within
  | hash (a : Digest.Algorithm)
  | checkSig
  | checkSigVerify
  deriving DecidableEq

namespace TopOp

/-- A verification that finds what it asks for leaves nothing behind. -/
def verified (b : Bool) (operation : Text) : Replacement :=
  if b then .ok [] else .error (.unverified operation)

/-- A number in the place of one number. -/
def onNumber (f : Int → Int) (a : Item) : Replacement :=
  match a.toNumber with
  | .ok n => .ok [.number (f n)]
  | .error e => .error e

/-- The numbers that two items stand for; the top one is read first. -/
def numbers (a b : Item) : Except Failure (Int × Int) :=
  match a.toNumber with
  | .error e => .error e
  | .ok n =>
    match b.toNumber with
    | .error e => .error e
    | .ok m => .ok (m, n)

/-- A number in the place of two numbers; the lower one is the first argument of `f`. -/
def onNumbers (f : Int → Int → Int) (a b : Item) : Replacement :=
  match numbers a b with
  | .ok (m, n) => .ok [.number (f m n)]
  | .error e => .error e

def rule : TopOp → Rule
  | push n => .zero (.ok [.number n])
  | nop => .zero (.ok [])
  | drop => .one fun _ => .ok []
  | drop2 => .two fun _ _ => .ok []
  | dup => .one fun a => .ok [a, a]
  | dup2 => .two fun a b => .ok [a, b, a, b]
  | dup3 => .three fun a b c => .ok [a, b, c, a, b, c]
  | over1 => .two fun a b => .ok [b, a, b]
  | over2 => .four fun a b c d => .ok [c, d, a, b, c, d]
  | swap => .two fun a b => .ok [b, a]
  | swap2 => .four fun a b c d => .ok [c, d, a, b]
  | rot => .three fun a b c => .ok [c, a, b]
  | nip => .two fun a _ => .ok [a]
  | tuck => .two fun a b => .ok [a, b, a]
  | ifDup => .one fun a => .ok (if a.isTrue then [a, a] else [a])
  | size => .one fun a => .ok [.number a.toBytes.length, a]
  | verify => .one fun a => verified a.isTrue "OP_VERIFY"
  | equal => .two fun a b => .ok [.ofTruth (a.equal b)]
  | equalVerify => .two fun a b => verified (a.equal b) "OP_EQUALVERIFY"
  | unary f => .one (onNumber f.eval)
  | binary f => .two (onNumbers f.eval)
  | numEqualVerify => .two fun a b =>
    match numbers a b with
    | .ok (m, n) => verified (m == n) "OP_NUMEQUALVERIFY"
    | .error e => .error e
  | within => .three fun a b c =>
    match a.toNumber with
    | .error e => .error e
    | .ok hi =>
      match numbers b c with
      | .error e => .error e
      | .ok (x, lo) => .ok [.ofTruth (liesWithin x lo hi)]
  | hash f => .one fun a => .ok [.bytes (f.digest a.toBytes)]
  | checkSig => .two fun _ _ => .ok [.number 1]
  | checkSigVerify => .two fun _ _ => .ok []

end TopOp

end ScriptTutor
