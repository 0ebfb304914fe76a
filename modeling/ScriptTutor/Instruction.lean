/-
**Instructions.**

A program is a sequence of values.  A text whose capitals start with `OP_` names an opcode; every
other item is a literal, which is pushed.
-/

import ScriptTutor.Display.Basic
import ScriptTutor.Text.LetterCase

set_option relaxedAutoImplicit false
set_option autoImplicit false

namespace ScriptTutor

/-- What a program tells the machine to do. -/
inductive Instruction where
  | literal (x : Item)
  /-- The opcode of this name, in capitals; there need be no such opcode. -/
  | opcode (name : Text)
  deriving DecidableEq

def Text.isOpcodeName (t : Text) : Bool := List.isPrefixOf ("OP_" : Text) t.upper

def Value.isOpcodeName : Value → Bool
  | .item (.text t) => t.isOpcodeName
  | _ => false

namespace Instruction

def ofItem : Item → Instruction
  | .text t => if t.isOpcodeName then .opcode t.upper else .literal (.text t)
  | x => .literal x

/-- The instruction that a value is; a value that cannot be an item is none. -/
def ofValue (v : Value) : Except Fault Instruction := v.toItem.map ofItem

/-- The label of the step that an instruction leaves. -/
def label : Instruction → Text
  | literal x => "PUSH(" ++ Display.item .single x ++ ")"
  | opcode name => name

def printLabel : Instruction → Except Fault Text
  | literal x => (Display.printItem .single x).map fun t => "PUSH(" ++ t ++ ")"
  | opcode name => .ok name

/-- Every label can be written. -/
theorem printLabel_eq (i : Instruction) : i.printLabel = .ok i.label := by
  cases i with
  | literal x =>
      rw [printLabel, Display.printItem_eq]
      rfl
  | opcode name => rfl

end Instruction

end ScriptTutor
