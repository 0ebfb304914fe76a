/-
**Items shown with limits of the caller's choice.**

A caller may choose where a text is cut, and may choose it by any value.  A limit is compared with
a length, so it has to be a quantity; bytes can be cut only at a count.  What is not compared does
not matter.

Main definitions:

* `ScriptTutor.Display.adjusted` — a value, shown with the given limits;
* `ScriptTutor.Value.hexShown`, `ScriptTutor.Value.hexUpTo` — a value in hexadecimal digits.

Main result:

* `ScriptTutor.Display.adjusted_item` — with limits that are integers, an item is shown as usual.
-/

import ScriptTutor.Display.Basic

set_option relaxedAutoImplicit false
set_option autoImplicit false

namespace ScriptTutor

namespace Display

/-- A text, cut if it is hexadecimal and longer than the limit. -/
def adjustedText (hexLength : Value) (showTail : Bool) (t : Text) : Except Fault Text :=
  if (afterHexMark? t).isSome then
    (hexLength.isBelow t.length).map fun cut => if cut then cutText showTail t else t
  else .ok t

/-- A byte string, cut if it has more bytes than the limit. -/
def adjustedBytes (byteCount : Value) (bs : Bytes) : Except Fault Text :=
  match byteCount.isBelow bs.length with
  | .ok true => byteCount.count.map fun k => cutBytes k bs
  | .ok false => .ok ("0x" ++ bs.toHex)
  | .error e => .error e

/-- A value, shown with the given limits. -/
def adjusted (hexLength : Value) (showTail : Bool) (byteCount : Value) :
    Value → Except Fault Text
  | .item (.number n) =>
    if isWide n then
      (adjustedText hexLength showTail (hexText n.natAbs)).map fun t => signText n ++ t
    else printDecimal n
  | .item (.flag b) => .ok (flag b)
  | .item (.text t) => adjustedText hexLength showTail t
  | .item (.bytes bs) => adjustedBytes byteCount bs
  | .buffer bs => adjustedBytes byteCount bs
  | v => v.plain

theorem adjustedText_number (l : Limits) (t : Text) :
    adjustedText (.item (.number l.hexLength)) l.showTail t = .ok (text l t) := by
  rw [adjustedText, text, Value.isBelow_number]
  by_cases h : (afterHexMark? t).isSome = true <;> by_cases hl : l.hexLength < t.length <;>
    simp [h, hl, Except.map]

/-- With limits that are integers, an item is shown as usual. -/
theorem adjusted_item (l : Limits) (x : Item) :
    adjusted (.item (.number l.hexLength)) l.showTail (.item (.number l.byteCount)) (.item x) =
      .ok (item l x) := by
  cases x with
  | number n =>
      rw [adjusted, adjustedText_number]
      exact printNumber_eq l n
  | flag b => rfl
  | text t => exact adjustedText_number l t
  | bytes bs =>
      rw [adjusted, adjustedBytes, Value.isBelow_number, item, bytes]
      by_cases h : l.byteCount < bs.length <;> simp [h, Value.count, Except.map]

end Display

namespace Value

/-- A byte string, a buffer, a view or a binary fraction in hexadecimal digits. -/
def hexShown : Value → Except Fault Text
  | item (.bytes bs) => .ok bs.toHex
  | buffer bs => .ok bs.toHex
  | view bs => .ok bs.toHex
  | released => .error .released
  | real x => .ok x.hexShown
  | _ => .error .noMember

/-- A part of a value in hexadecimal digits, up to a position. -/
def hexBefore (v position : Value) : Except Fault Text :=
  match position.count, v with
  | .error e, _ => .error e
  | .ok _, mapping => .error .wrongKind
  | .ok k, v =>
    match v.rawBytes with
    | .ok bs => .ok (bs.upTo k).toHex
    | .error .wrongKind => .error .noMember
    | .error e => .error e

/-- A value in hexadecimal digits, cut if it has more elements than the limit; no limit is set by
an absent value. -/
def hexUpTo (v limit : Value) : Except Fault Text :=
  match limit, v.length with
  | absent, _ => v.hexShown
  | _, .error e => .error e
  | limit, .ok n =>
    match limit.isBelow n with
    | .ok true => v.hexBefore limit
    | .ok false => v.hexShown
    | .error e => .error e

end Value

end ScriptTutor
