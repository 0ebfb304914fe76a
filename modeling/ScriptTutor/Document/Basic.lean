/-
**Documents and their JSON text.**

A document is what is handed to another program.  Its text is laid out for a reader: each element
stands on its own line, two spaces further in than the document around it.  Only printable ASCII
appears in it; all else is escaped, code points beyond the first plane as a pair of surrogates.

Main definitions:

* `ScriptTutor.Document` — truth values, numbers, texts, lists and records;
* `ScriptTutor.Document.escape` — how a code point stands in a text;
* `ScriptTutor.Document.render` — the text of a document.
-/

import ScriptTutor.Binary64.Decimal

set_option relaxedAutoImplicit false
set_option autoImplicit false

namespace ScriptTutor

/-- What is handed to another program. -/
inductive Document where
  | null
  | flag (b : Bool)
  | number (n : Int)
  /-- A number that is no integer. -/
  | real (x : Binary64)
  | text (t : Text)
  | list (xs : List Document)
  /-- Fields with their names, in order. -/
  | record (fields : List (Text × Document))

namespace Document

/-! ### Texts -/

/-- A code unit of sixteen bits, escaped by its number. -/
def escapedUnit (n : Nat) : Text := "\\u" ++ paddedHex 4 n

/-- The high one of the two surrogates that stand for a code point beyond the first plane. -/
def highSurrogate (n : Nat) : Nat := 0xD800 + (n - 0x10000) / 0x400

/-- The low one of the two surrogates that stand for a code point beyond the first plane. -/
def lowSurrogate (n : Nat) : Nat := 0xDC00 + (n - 0x10000) % 0x400

/-- How a code point stands in a text. -/
def escape (c : CodePoint) : Text :=
  if c = '"' then "\\\""
  else if c = '\\' then "\\\\"
  else if c = '\n' then "\\n"
  else if c = '\r' then "\\r"
  else if c = '\t' then "\\t"
  else if c = '\x08' then "\\b"
  else if c = '\x0c' then "\\f"
  else if 0x20 ≤ c.val ∧ c.val < 0x7F then [c]
  else if c.val < 0x10000 then escapedUnit c.val
  else escapedUnit (highSurrogate c.val) ++ escapedUnit (lowSurrogate c.val)

def quoted (t : Text) : Text := "\"" ++ t.flatMap escape ++ "\""

/-! ### Numbers -/

/-- A number that is no integer; words stand for the numbers that are not finite. -/
def realText : Binary64 → Text
  | .finite negative m e => (Binary64.finite negative m e).shown
  | .infinite negative => Binary64.signShown negative ++ "Infinity"
  | .undefined => "NaN"

/-! ### Layout -/

/-- A new line, indented by two spaces for each document around it. -/
def newLine (depth : Nat) : Text :=
  CodePoint.ofChar '\n' :: List.replicate (2 * depth) (CodePoint.ofChar ' ')

mutual

/-- The text of a document that lies inside `depth` others. -/
def render (depth : Nat) : Document → Text
  | null => "null"
  | flag true => "true"
  | flag false => "false"
  | number n => decimalText n
  | real x => realText x
  | text t => quoted t
  | list [] => "[]"
  | list (x :: xs) =>
    "[" ++ newLine (depth + 1) ++ render (depth + 1) x ++ renderMore (depth + 1) xs ++
      newLine depth ++ "]"
  | record [] => "\x7b\x7d"
  | record ((k, x) :: fields) =>
    "\x7b" ++ newLine (depth + 1) ++ quoted k ++ ": " ++ render (depth + 1) x ++
      renderFields (depth + 1) fields ++ newLine depth ++ "\x7d"

def renderMore (depth : Nat) : List Document → Text
  | [] => []
  | x :: xs => "," ++ newLine depth ++ render depth x ++ renderMore depth xs

def renderFields (depth : Nat) : List (Text × Document) → Text
  | [] => []
  | (k, x) :: fields =>
    "," ++ newLine depth ++ quoted k ++ ": " ++ render depth x ++ renderFields depth fields

end

def toText (d : Document) : Text := render 0 d

end Document

end ScriptTutor
