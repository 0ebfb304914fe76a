/-
**Quoted texts and byte strings.**

Messages show a value in quotes.  A single quote is the mark, unless the content has single
quotes and no double ones.  Inside, the mark and the backslash stand behind a backslash, tab, line
feed and carriage return are written by letters, and what is not printable by its number.

Main definitions:

* `ScriptTutor.Quoted.mark` — the quotation mark that a content calls for;
* `ScriptTutor.Quoted.ofText` — a text in quotes;
* `ScriptTutor.Quoted.ofBytes` — a byte string in quotes, behind the letter `b`;
* `ScriptTutor.Quoted.ofBuffer` — a byte string that may still change.
-/

import ScriptTutor.Bytes
import ScriptTutor.Text.Printable

set_option relaxedAutoImplicit false
set_option autoImplicit false

namespace ScriptTutor.Quoted

/-- The quotation mark around a content: double only if the content has single quotes and no
double ones. -/
def mark (t : Text) : CodePoint :=
  if CodePoint.ofChar '\x27' ∈ t ∧ CodePoint.ofChar '"' ∉ t then '"' else '\x27'

/-- The escapes that quoted texts and quoted byte strings share. -/
def escape? (m c : CodePoint) : Option Text :=
  if c = m ∨ c = '\\' then some ['\\', c]
  else if c = '\t' then some "\\t"
  else if c = '\n' then some "\\n"
  else if c = '\r' then some "\\r"
  else none

def point (m c : CodePoint) : Text :=
  match escape? m c with
  | some t => t
  | none =>
    if c.isPrintable then [c]
    else if c.val < 0x100 then "\\x" ++ paddedHex 2 c.val
    else if c.val < 0x10000 then "\\u" ++ paddedHex 4 c.val
    else "\\U" ++ paddedHex 8 c.val

def ofText (t : Text) : Text :=
  let m := mark t
  m :: t.flatMap (point m) ++ [m]

/-- A byte inside a quoted byte string; only ASCII from the space to the tilde is shown. -/
def byte (m c : CodePoint) : Text :=
  match escape? m c with
  | some t => t
  | none => if 0x20 ≤ c.val ∧ c.val < 0x7F then [c] else "\\x" ++ paddedHex 2 c.val

def ofBytes (bs : Bytes) : Text :=
  let t : Text := bs.map fun b => Fin.ofNat _ b.toNat
  let m := mark t
  "b" ++ (m :: t.flatMap (byte m) ++ [m])

/-- A byte string that may still change, in quotes.  A single quote in it stands behind a backslash
even between double quotes. -/
def ofBuffer (bs : Bytes) : Text :=
  let t : Text := bs.map fun b => Fin.ofNat _ b.toNat
  let m := mark t
  "bytearray(b" ++ (m :: t.flatMap (byte '\x27') ++ [m]) ++ ")"

end ScriptTutor.Quoted
