/-
**What runs under which name.**

Main definitions:

* `ScriptTutor.Flow` — the opcodes that open, switch and close conditionals;
* `ScriptTutor.Opcode` — an opcode of either kind;
* `ScriptTutor.DispatchEntry` — a name with its opcode and the number of items that has to lie on
  the main stack;
* `ScriptTutor.Dispatch.table` — all entries;
* `ScriptTutor.Dispatch.find?` — the entry of a name;
* `ScriptTutor.pushHandler` — the handler that pushes a given number, if there is one.
-/

import ScriptTutor.Opcode.Operation
import ScriptTutor.Value.Basic

set_option relaxedAutoImplicit false
set_option autoImplicit false

namespace ScriptTutor

inductive Flow where
  /-- Opens a conditional whose first arm is for a true item. -/
  | onTrue
  /-- Opens a conditional whose first arm is for a false item. -/
  | onFalse
  | otherwise
  | close
  deriving DecidableEq

/-- What a name can stand for. -/
inductive Opcode where
  | flow (f : Flow)
  | operation (o : Operation)
  deriving DecidableEq

instance : Coe TopOp Opcode := ⟨fun r => .operation (.onTop r)⟩
instance : Coe Operation Opcode := ⟨.operation⟩

/-- A name with its opcode and the number of items it needs on the main stack. -/
structure DispatchEntry where
  name : Text
  opcode : Opcode
  minItems : Nat

namespace Dispatch

def numbered (n : Nat) : DispatchEntry := ⟨"OP_" ++ decimalText n, TopOp.push n, 0⟩

def constants : List DispatchEntry :=
  [⟨"OP_0", TopOp.push 0, 0⟩,
   ⟨"OP_FALSE", TopOp.push 0, 0⟩,
   ⟨"OP_1NEGATE", TopOp.push (-1), 0⟩,
   ⟨"OP_1", TopOp.push 1, 0⟩,
   ⟨"OP_TRUE", TopOp.push 1, 0⟩] ++
  (List.range 15).map fun i => numbered (i + 2)

def control : List DispatchEntry :=
  [⟨"OP_NOP", TopOp.nop, 0⟩,
   ⟨"OP_IF", .flow .onTrue, 1⟩,
   ⟨"OP_NOTIF", .flow .onFalse, 1⟩,
   ⟨"OP_ELSE", .flow .otherwise, 0⟩,
   ⟨"OP_ENDIF", .flow .close, 0⟩,
   ⟨"OP_VERIFY", TopOp.verify, 1⟩,
   ⟨"OP_RETURN", Operation.abandon, 0⟩]

def moves : List DispatchEntry :=
  [⟨"OP_TOALTSTACK", Operation.toAlt, 1⟩,
   ⟨"OP_FROMALTSTACK", Operation.fromAlt, 0⟩,
   ⟨"OP_2DROP", TopOp.drop2, 2⟩,
   ⟨"OP_2DUP", TopOp.dup2, 2⟩,
   ⟨"OP_3DUP", TopOp.dup3, 3⟩,
   ⟨"OP_2OVER", TopOp.over2, 4⟩,
   ⟨"OP_2SWAP", TopOp.swap2, 4⟩,
   ⟨"OP_IFDUP", TopOp.ifDup, 1⟩,
   ⟨"OP_DEPTH", Operation.depth, 0⟩,
   ⟨"OP_DROP", TopOp.drop, 1⟩,
   ⟨"OP_DUP", TopOp.dup, 1⟩,
   ⟨"OP_NIP", TopOp.nip, 2⟩,
   ⟨"OP_OVER", TopOp.over1, 2⟩,
   ⟨"OP_ROT", TopOp.rot, 3⟩,
   ⟨"OP_SWAP", TopOp.swap, 2⟩,
   ⟨"OP_TUCK", TopOp.tuck, 2⟩,
   ⟨"OP_SIZE", TopOp.size, 1⟩]

def computations : List DispatchEntry :=
  [⟨"OP_EQUAL", TopOp.equal, 2⟩,
   ⟨"OP_EQUALVERIFY", TopOp.equalVerify, 2⟩,
   ⟨"OP_1ADD", TopOp.unary .increment, 1⟩,
   ⟨"OP_1SUB", TopOp.unary .decrement, 1⟩,
   ⟨"OP_NEGATE", TopOp.unary .negate, 1⟩,
   ⟨"OP_ABS", TopOp.unary .absolute, 1⟩,
   ⟨"OP_NOT", TopOp.unary .isZero, 1⟩,
   ⟨"OP_0NOTEQUAL", TopOp.unary .isNonzero, 1⟩,
   ⟨"OP_ADD", TopOp.binary .add, 2⟩,
   ⟨"OP_SUB", TopOp.binary .subtract, 2⟩,
   ⟨"OP_BOOLAND", TopOp.binary .both, 2⟩,
   ⟨"OP_BOOLOR", TopOp.binary .either, 2⟩,
   ⟨"OP_NUMEQUAL", TopOp.binary .equal, 2⟩,
   ⟨"OP_NUMEQUALVERIFY", TopOp.numEqualVerify, 2⟩,
   ⟨"OP_NUMNOTEQUAL", TopOp.binary .notEqual, 2⟩,
   ⟨"OP_LESSTHAN", TopOp.binary .less, 2⟩,
   ⟨"OP_GREATERTHAN", TopOp.binary .greater, 2⟩,
   ⟨"OP_LESSTHANOREQUAL", TopOp.binary .lessOrEqual, 2⟩,
   ⟨"OP_GREATERTHANOREQUAL", TopOp.binary .greaterOrEqual, 2⟩,
   ⟨"OP_MIN", TopOp.binary .minimum, 2⟩,
   ⟨"OP_MAX", TopOp.binary .maximum, 2⟩,
   ⟨"OP_WITHIN", TopOp.within, 3⟩]

def digests : List DispatchEntry :=
  [⟨"OP_RIPEMD160", TopOp.hash .ripemd160, 1⟩,
   ⟨"OP_SHA1", TopOp.hash .sha1, 1⟩,
   ⟨"OP_SHA256", TopOp.hash .sha256, 1⟩,
   ⟨"OP_HASH160", TopOp.hash .hash160, 1⟩,
   ⟨"OP_HASH256", TopOp.hash .hash256, 1⟩,
   ⟨"OP_CHECKSIG", TopOp.checkSig, 2⟩,
   ⟨"OP_CHECKSIGVERIFY", TopOp.checkSigVerify, 2⟩]

/-- All opcodes that can run, by name. -/
def table : List DispatchEntry := constants ++ control ++ moves ++ computations ++ digests

/-- The entry of a name, which has to be spelled as in the table. -/
def find? (name : Text) : Option DispatchEntry := table.find? (·.name == name)

/-- The entry of a name that may be no text.  A value that may still change is no key of a
table. -/
def find (name : Value) : Except Fault (Option DispatchEntry) :=
  match name with
  | .item (.text t) => .ok (find? t)
  | v => v.checkKey.map fun _ => none

end Dispatch

namespace DispatchEntry

def isFlow (d : DispatchEntry) : Bool :=
  match d.opcode with
  | .flow _ => true
  | .operation _ => false

def usesAlt (d : DispatchEntry) : Bool :=
  match d.opcode with
  | .flow _ => false
  | .operation o => o.usesAlt

/-- Whether the entry runs as an operation even where instructions are skipped. -/
def alwaysRuns (d : DispatchEntry) : Bool :=
  match d.opcode with
  | .flow _ => false
  | .operation o => o.alwaysRuns

end DispatchEntry

/-! ### Handlers that push a number -/

/-- The name of the handler that pushes a number, and what it pushes.  The numbers from one to
sixteen have one; the true flag counts as one and is pushed as it is.  A binary fraction may have
a handler as well, but cannot be pushed. -/
def pushHandler (v : Value) : Except Fault (Text × Item) :=
  match v with
  | .item (.number n) =>
    if 1 ≤ n ∧ n ≤ 16 then .ok ("op_" ++ decimalText n, .number n) else .error .noSuchPush
  | .item (.flag true) => .ok ("op_True", .flag true)
  | .item (.flag false) => .error .noSuchPush
  | .real x =>
    if (x.compareTo 1).any (·.isGE) ∧ (x.compareTo 16).any (·.isLE) then .error (.notAnItem .real)
    else .error .noSuchPush
  | _ => .error .wrongKind

end ScriptTutor
