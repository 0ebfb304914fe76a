/-
**What can go wrong.**

A script can fail: an operand is missing or is no number, a verification does not hold, a branch
is closed that was never opened, an opcode is unknown.  Such a failure ends the run and stands in
its trace.  A fault is the misuse of an operation by its caller; it leaves no result at all.  Every
failure is a fault for a caller that uses the stack directly.

Main definitions:

* `ScriptTutor.Kind` — what a value is, which is all that a message says of one that is no item;
* `ScriptTutor.Failure`, `ScriptTutor.Failure.message` — the ways in which a script fails, and the
  wording;
* `ScriptTutor.Fault`, `ScriptTutor.Fault.message?` — the ways in which a call has no result, and
  the wording, if there is one.
-/

import ScriptTutor.Text.Numeral

set_option relaxedAutoImplicit false
set_option autoImplicit false

namespace ScriptTutor

/-! ### Kinds of values -/

inductive Kind where
  | number
  | flag
  | text
  | bytes
  | buffer
  | view
  | real
  | absent
  | list
  | tuple
  | mapping
  deriving DecidableEq

def Kind.name : Kind → Text
  | number => "int"
  | flag => "bool"
  | text => "str"
  | bytes => "bytes"
  | buffer => "bytearray"
  | view => "memoryview"
  | real => "float"
  | absent => "NoneType"
  | list => "list"
  | tuple => "tuple"
  | mapping => "dict"

/-! ### Failures of a script -/

/-- The ways in which a script fails. -/
inductive Failure where
  /-- The operation needs more items than the stack has. -/
  | underflow (required found : Nat) (operation : Text)
  /-- An operand, shown as it stands here, cannot be read as a number. -/
  | notANumber (shown : Text)
  /-- A script number was asked of a value of this kind. -/
  | notAnInteger (kind : Kind)
  /-- The item that the operation verified is false. -/
  | unverified (operation : Text)
  /-- The script gave itself up. -/
  | abandoned
  | elseWithoutIf
  | secondElse
  | endifWithoutIf
  | disabled (name : Text)
  | unknown (name : Text)
  deriving DecidableEq

def anonymousOperation : Text := "Operation"

/-- The wording of an underflow; only a single item is counted in the singular. -/
def underflowText (operation required found : Text) (single : Bool) : Text :=
  "Stack underflow: " ++ operation ++ " requires " ++ required ++
    (if single then (" item" : Text) else " items") ++ ", found " ++ found

def Failure.message : Failure → Text
  | underflow required found operation =>
    underflowText (if operation = [] then anonymousOperation else operation)
      (decimalText required) (decimalText found) (required == 1)
  | notANumber shown => "Cannot convert " ++ shown ++ " to a number"
  | notAnInteger kind => "ScriptNum value must be an integer, not " ++ kind.name
  | unverified operation => operation ++ " failed: top stack item is false"
  | abandoned => "OP_RETURN marks script as invalid"
  | elseWithoutIf => "OP_ELSE without matching OP_IF"
  | secondElse => "Duplicate OP_ELSE for the same OP_IF"
  | endifWithoutIf => "OP_ENDIF without matching OP_IF"
  | disabled name => name ++ " is disabled"
  | unknown name => "Unknown opcode: " ++ name

/-! ### Faults of a caller -/

inductive Fault where
  /-- The call ends in a failure of the script. -/
  | failure (f : Failure)
  /-- A caller asked for more items than there are, in these words. -/
  | shortage (message : Text)
  /-- A value of this kind cannot be an item. -/
  | notAnItem (kind : Kind)
  /-- A view was given back, and its bytes are out of reach. -/
  | released
  /-- The program is a text or a byte string and not a sequence. -/
  | notAProgram
  | unknownChallenge (id : Text)
  | unknownTemplate (name : Text)
  /-- The decimal text of an integer would have more than `digitLimit` digits. -/
  | digitLimit
  /-- A number in a list of bytes is too large or negative. -/
  | notAByte
  /-- No opcode pushes the number. -/
  | noSuchPush
  /-- A format for log lines has no placeholder. -/
  | invalidFormat (format : Text)
  /-- The operation is not defined on a value of this kind. -/
  | wrongKind
  /-- An index is out of range. -/
  | outOfRange
  /-- A mapping has no such entry. -/
  | noEntry
  /-- The value has no such operation or member. -/
  | noMember
  deriving DecidableEq

/-- The wording of a fault; the last four have none. -/
def Fault.message? : Fault → Option Text
  | failure f => some f.message
  | shortage message => some message
  | notAnItem kind => some ("Cannot push value of type " ++ kind.name ++ " to the stack")
  | released => some "operation forbidden on released memoryview object"
  | notAProgram => some "Program must be a sequence of instructions"
  | unknownChallenge id => some ("Unknown challenge: " ++ id)
  | unknownTemplate name => some ("Unknown template: " ++ name)
  | digitLimit => some ("Exceeds the limit (4300 digits) for integer string conversion; " ++
      "use sys.set_int_max_str_digits() to increase the limit")
  | notAByte => some "bytes must be in range(0, 256)"
  | noSuchPush => some "OP_n only exists for 1 <= n <= 16"
  | invalidFormat format => some ("Invalid format '" ++ format ++ "' for '%' style")
  | wrongKind => none
  | outOfRange => none
  | noEntry => none
  | noMember => none

/-- The decimal numeral of an integer, in the places where one that is too long is a fault. -/
def printDecimal (n : Int) : Except Fault Text :=
  match decimalText? n with
  | some t => .ok t
  | none => .error .digitLimit

theorem printDecimal_of_some {n : Int} {t : Text} (h : decimalText? n = some t) :
    printDecimal n = .ok t := by
  rw [printDecimal, h]

end ScriptTutor
