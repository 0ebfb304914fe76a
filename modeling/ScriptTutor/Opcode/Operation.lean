/-
**Operations on the two stacks.**

Besides the main stack a script has an alternative stack, on which items can be put aside.

Main definitions:

* `ScriptTutor.Stacks` — the main stack and the alternative stack;
* `ScriptTutor.Operation` — the opcodes that act on the stacks;
* `ScriptTutor.Operation.run` — what they do, whoever calls them.

Main result:

* `ScriptTutor.Operation.run_onTop_of_result?` — an opcode on the top of the stack does what its
  rule says.
-/

import ScriptTutor.Opcode.TopOp

set_option relaxedAutoImplicit false
set_option autoImplicit false

namespace ScriptTutor

structure Stacks where
  main : Stack
  alt : Stack
  deriving DecidableEq

inductive Operation where
  | onTop (r : TopOp)
  /-- Moves the top item to the alternative stack. -/
  | toAlt
  /-- Moves the top item of the alternative stack back. -/
  | fromAlt
  /-- Pushes the height of the main stack. -/
  | depth
  /-- Gives the script up. -/
  | abandon
  deriving DecidableEq

namespace Operation

/-- The fault of an operation that finds too few items: an anonymous underflow, as a rule.  The
opcode that duplicates a true item asks for the truth of an item that is not there. -/
def shortage (r : TopOp) (found : Nat) : Fault :=
  match r with
  | .ifDup => .wrongKind
  | r => .failure (.underflow r.rule.arity found [])

/-- Runs an operation on the stacks: whether it succeeds, and the stacks afterwards. -/
def run : Operation → Stacks → Except Fault Unit × Stacks
  | onTop r, s =>
    match r.rule.result? s.main with
    | some (.ok items, rest) => (.ok (), { s with main := items ++ rest })
    | some (.error f, rest) => (.error (.failure f), { s with main := rest })
    | none => (.error (shortage r s.main.length), s)
  | toAlt, s =>
    match s.main with
    | x :: rest => (.ok (), ⟨rest, x :: s.alt⟩)
    | [] => (.error (.failure (.underflow 1 0 [])), s)
  | fromAlt, s =>
    match s.alt with
    | x :: rest => (.ok (), ⟨x :: s.main, rest⟩)
    | [] => (.error (.failure (.underflow 1 0 "OP_FROMALTSTACK")), s)
  | depth, s => (.ok (), { s with main := .number s.main.length :: s.main })
  | abandon, s => (.error (.failure .abandoned), s)

def usesAlt : Operation → Bool
  | toAlt => true
  | fromAlt => true
  | _ => false

/-- Whether the operation runs even where instructions are skipped. -/
def alwaysRuns : Operation → Bool
  | abandon => true
  | _ => false

/-- An opcode on the top of the stack does what its rule says. -/
theorem run_onTop_of_result? {r : TopOp} {s : Stacks} {items : List Item} {rest : Stack}
    (h : r.rule.result? s.main = some (.ok items, rest)) :
    (onTop r).run s = (.ok (), ⟨items ++ rest, s.alt⟩) := by
  simp [run, h]

end Operation

end ScriptTutor
