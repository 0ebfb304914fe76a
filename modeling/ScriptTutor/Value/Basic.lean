/-
**Values that a caller may hand over.**

A program is read from outside, so its elements may be anything: an item, a buffer of bytes, or a
value that cannot lie on the stack at all.

Main definitions:

* `ScriptTutor.Value` — what a caller may hand over;
* `ScriptTutor.Value.toItem` — the item that a value is, if it is one;
* `ScriptTutor.Value.elements` — the elements of a value that can be walked through;
* `ScriptTutor.Value.checkKey` — whether a value can be the key of a table.
-/

import ScriptTutor.Binary64.Basic
import ScriptTutor.Failure
import ScriptTutor.Item.Basic

set_option relaxedAutoImplicit false
set_option autoImplicit false

namespace ScriptTutor

/-- What a caller may hand over. -/
inductive Value where
  | item (x : Item)
  /-- A byte string that may still change. -/
  | buffer (bs : Bytes)
  /-- A view of the bytes of another value. -/
  | view (bs : Bytes)
  /-- A view that was given back, so that its bytes are out of reach. -/
  | released
  /-- A number that is no integer. -/
  | real (x : Binary64)
  | absent
  | list (xs : List Value)
  | tuple (xs : List Value)
  /-- A mapping without entries. -/
  | mapping

namespace Value

def kind : Value → Kind
  | item (.number _) => .number
  | item (.flag _) => .flag
  | item (.text _) => .text
  | item (.bytes _) => .bytes
  | buffer _ => .buffer
  | view _ => .view
  | released => .view
  | real _ => .real
  | absent => .absent
  | list _ => .list
  | tuple _ => .tuple
  | mapping => .mapping

/-- The fault of a value that should be an item and is none. -/
def refusal : Value → Fault
  | released => .released
  | v => .notAnItem v.kind

/-- The item that a value is; buffers and views are copied into byte strings. -/
def toItem : Value → Except Fault Item
  | item x => .ok x
  | buffer bs => .ok (.bytes bs)
  | view bs => .ok (.bytes bs)
  | v => .error v.refusal

/-- Whether the value can be an item. -/
def IsItem (v : Value) : Prop := ∃ x, v.toItem = .ok x

/-- The bytes of a byte string, a buffer or a view. -/
def rawBytes : Value → Except Fault Bytes
  | item (.bytes bs) => .ok bs
  | buffer bs => .ok bs
  | view bs => .ok bs
  | released => .error .released
  | _ => .error .wrongKind

def ofBytes (bs : Bytes) : List Value := bs.map fun b => item (.number b.toNat)

/-- The elements of a value that can be walked through: a text has one-letter texts, and bytes
are numbers. -/
def elements : Value → Except Fault (List Value)
  | item (.text t) => .ok (t.map fun c => item (.text [c]))
  | item (.bytes bs) => .ok (ofBytes bs)
  | buffer bs => .ok (ofBytes bs)
  | view bs => .ok (ofBytes bs)
  | released => .error .released
  | list xs => .ok xs
  | tuple xs => .ok xs
  | mapping => .ok []
  | _ => .error .wrongKind

def length (v : Value) : Except Fault Nat := v.elements.map List.length

mutual

/-- A value is used as the key of a table, which it cannot be if it may still change. -/
def checkKey : Value → Except Fault Unit
  | buffer _ => .error .wrongKind
  | list _ => .error .wrongKind
  | mapping => .error .wrongKind
  | released => .error .released
  | tuple xs => checkKeys xs
  | _ => .ok ()

def checkKeys : List Value → Except Fault Unit
  | [] => .ok ()
  | v :: vs =>
    match checkKey v with
    | .ok () => checkKeys vs
    | .error e => .error e

end

@[simp] theorem toItem_item (x : Item) : (item x).toItem = .ok x := rfl

@[simp] theorem elements_list (xs : List Value) : (list xs).elements = .ok xs := rfl

@[simp] theorem elements_tuple (xs : List Value) : (tuple xs).elements = .ok xs := rfl

end Value

end ScriptTutor
