/-
**Items read as numbers and as bytes.**

Every item has bytes, and items are equal when their bytes are.  Not every item is a number: a
text is one only if it is a numeral, blanks around it aside.  The two readings of a text are
independent: `"10"` is the number ten, but its bytes are those of two digits.  What a learner types
is an item as well: a number if it is a numeral, and otherwise a text.

Main definitions:

* `ScriptTutor.Item.toNumber` — the number that an item stands for;
* `ScriptTutor.Item.toBytes` — the bytes of an item;
* `ScriptTutor.Item.equal`, `ScriptTutor.Item.allEqual` — equality of items and of lists of them.

Main result:

* `ScriptTutor.Item.textBytes_of_digits` — digits behind the mark, in either letter case, have the
  bytes that they denote.
-/

import ScriptTutor.Failure
import ScriptTutor.Item.Basic
import ScriptTutor.ScriptNumber
import ScriptTutor.Text.Blank
import ScriptTutor.Text.Quoted
import ScriptTutor.Text.Utf8

set_option relaxedAutoImplicit false
set_option autoImplicit false

namespace ScriptTutor.Item

/-- How a message shows a numeral that is too long: the first ten digits. -/
def clippedNumeral (t : Text) : Text := "'" ++ t.take 10 ++ "...'"

def toNumber : Item → Except Failure Int
  | number n => .ok n
  | flag b => .ok (if b then 1 else 0)
  | bytes bs => .ok (ScriptNumber.decode bs)
  | text t =>
    match Numeral.read t.trim with
    | .number n => .ok n
    | .tooLong => .error (.notANumber (clippedNumeral t.trim))
    | .absent => .error (.notANumber (Quoted.ofText t))

@[simp] theorem toNumber_number (n : Int) : toNumber (number n) = .ok n := rfl

/-- The bytes that a text stands for: behind the mark `0x`, pairs of digits stand for bytes; any
other text stands for its UTF-8 bytes. -/
def textBytes (t : Text) : Bytes :=
  match (afterHexMark? t).bind Bytes.ofHex? with
  | some bs => bs
  | none => t.utf8

/-- Digits in either letter case, behind the mark, have the bytes that they denote. -/
theorem textBytes_of_digits {mark : CodePoint} (hmark : mark = 'x' ∨ mark = 'X')
    {digits : Text} {bs : Bytes} (h : digits.map digit? = bs.toHex.map digit?) :
    textBytes ('0' :: mark :: digits) = bs := by
  have hafter : afterHexMark? ('0' :: mark :: digits) = some digits := if_pos ⟨rfl, hmark⟩
  have hbytes : Bytes.ofHex? digits = some bs :=
    (Bytes.ofHex?_congr h).trans (Bytes.ofHex?_toHex bs)
  rw [textBytes, hafter, Option.bind_some, hbytes]

def toBytes : Item → Bytes
  | number n => ScriptNumber.encode n
  | flag b => if b then [1] else []
  | bytes bs => bs
  | text t => textBytes t

theorem toBytes_hex (bs : Bytes) : toBytes (.text ("0x" ++ bs.toHex)) = bs :=
  textBytes_of_digits (.inl rfl) rfl

/-- The number that a number or a truth value is. -/
def numeric? : Item → Option Int
  | number n => some n
  | flag b => some (if b then 1 else 0)
  | _ => none

/-- Equality of items: numbers and truth values are compared as numbers, all else as bytes. -/
def equal (x y : Item) : Bool :=
  match x.numeric?, y.numeric? with
  | some m, some n => m == n
  | _, _ => x.toBytes == y.toBytes

/-- Equality of lists of items, one by one. -/
def allEqual : List Item → List Item → Bool
  | [], [] => true
  | x :: xs, y :: ys => x.equal y && allEqual xs ys
  | _, _ => false

/-! ### Typed input -/

/-- The item that a typed text without blanks at its ends stands for.  Decimal numerals are tried
first; one that is too long stays a text, and is not tried as a hexadecimal numeral. -/
def ofTrimmed (t : Text) : Item :=
  match Numeral.readDecimal t with
  | .number n => .number n
  | .tooLong => .text t
  | .absent =>
    match (afterHexMark? t).bind (naturalOf? 16) with
    | some n => .number n
    | none => .text t

/-- The item that a typed text stands for: none if there are only blanks, a number for a numeral,
and otherwise the text without the blanks around it. -/
def ofTyped? (t : Text) : Option Item :=
  if t.trim = [] then none else some (ofTrimmed t.trim)

end ScriptTutor.Item
