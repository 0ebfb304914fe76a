/-
**Items shown to a reader.**

A step of a trace is labelled with the literal it pushes, and the log shows whole stacks.  Long
hexadecimal texts, long byte strings and wide integers are cut, and three dots say so.

Main definitions:

* `ScriptTutor.Display.Limits` — where a text is cut;
* `ScriptTutor.Display.item`, `ScriptTutor.Display.printItem` — an item as it is shown on its own;
* `ScriptTutor.Display.printStack` — a stack as the log shows it;
* `ScriptTutor.Display.kindOf` — what a reader calls the item.

Main results:

* `ScriptTutor.Display.printItem_eq`, `ScriptTutor.Display.exists_printStack` — **every item and
  every stack can be shown**: no integer on the way has too many decimal digits.
-/

import ScriptTutor.Value.Reading

set_option relaxedAutoImplicit false
set_option autoImplicit false

namespace ScriptTutor

/-- The bytes before position `k`; a negative position counts from the end. -/
def Bytes.upTo (k : Int) (bs : Bytes) : Bytes :=
  if 0 ≤ k then bs.take k.toNat else bs.take (bs.length - k.natAbs)

/-- An integer is wide if its size takes more than 256 bits. -/
def isWide (n : Int) : Bool := 2 ^ 256 ≤ n.natAbs

theorem length_digitsText_of_not_wide {n : Int} (h : isWide n = false) :
    (digitsText 10 n.natAbs).length ≤ digitLimit := by
  have hlt : n.natAbs < 2 ^ 256 := Nat.lt_of_not_le (of_decide_eq_false h)
  have hbase : 2 ^ 256 ≤ 10 ^ 256 := Nat.pow_le_pow_left (by omega) 256
  have hlength : (digitsText 10 n.natAbs).length ≤ 256 :=
    (length_digitsText_le_iff (by decide) (by decide)).2 (Nat.lt_of_lt_of_le hlt hbase)
  exact Nat.le_trans hlength (by decide)

theorem decimalText?_of_not_wide {n : Int} (h : isWide n = false) :
    decimalText? n = some (decimalText n) := if_pos (length_digitsText_of_not_wide h)

namespace Display

/-- Where a text is cut. -/
structure Limits where
  /-- A text behind the mark `0x` is cut if it is longer than this, mark included. -/
  hexLength : Int
  /-- Whether a text that is cut shows its end, too. -/
  showTail : Bool
  /-- The number of bytes shown of a byte string. -/
  byteCount : Int

def Limits.single : Limits := ⟨20, false, 8⟩

def Limits.log : Limits := ⟨80, false, 16⟩

/-- A text that is cut: its start, three dots, and on demand its end. -/
def cutText (showTail : Bool) (t : Text) : Text :=
  t.take 10 ++ "..." ++ (if showTail then t.drop (t.length - 8) else [])

/-- A text, cut if it is hexadecimal and too long. -/
def text (l : Limits) (t : Text) : Text :=
  if (afterHexMark? t).isSome ∧ l.hexLength < t.length then cutText l.showTail t else t

/-- A byte string that is cut: the bytes before a position, and three dots. -/
def cutBytes (count : Int) (bs : Bytes) : Text := "0x" ++ (bs.upTo count).toHex ++ "..."

/-- A byte string, cut if it is too long. -/
def bytes (l : Limits) (bs : Bytes) : Text :=
  if l.byteCount < bs.length then cutBytes l.byteCount bs else "0x" ++ bs.toHex

def flag (b : Bool) : Text := if b then "true" else "false"

/-- An integer: a wide one is shown in hexadecimal digits, and cut like a text. -/
def number (l : Limits) (n : Int) : Text :=
  if isWide n then signText n ++ text l (hexText n.natAbs) else decimalText n

def item (l : Limits) : Item → Text
  | .number n => number l n
  | .flag b => flag b
  | .text t => text l t
  | .bytes bs => bytes l bs

/-! ### Printing

Wide integers are shown in hexadecimal digits, of which there may be any number.  That the decimal
ones always fit is a matter of the two limits. -/

def printNumber (l : Limits) (n : Int) : Except Fault Text :=
  if isWide n then .ok (signText n ++ text l (hexText n.natAbs)) else printDecimal n

def printItem (l : Limits) : Item → Except Fault Text
  | .number n => printNumber l n
  | x => .ok (item l x)

theorem printNumber_eq (l : Limits) (n : Int) : printNumber l n = .ok (number l n) := by
  cases h : isWide n with
  | true => rw [printNumber, number, if_pos h, if_pos h]
  | false =>
      rw [printNumber, number, if_neg (by simp [h]), if_neg (by simp [h]),
        printDecimal_of_some (decimalText?_of_not_wide h)]

theorem printItem_eq (l : Limits) (x : Item) : printItem l x = .ok (item l x) := by
  cases x with
  | number n => exact printNumber_eq l n
  | _ => rfl

def value (l : Limits) : Value → Except Fault Text
  | .item x => printItem l x
  | .buffer bs => .ok (bytes l bs)
  | v => v.plain

/-! ### Stacks -/

/-- The shown elements of a stack in brackets. -/
def bracketed (ts : List Text) : Text := "[" ++ Text.joinWith ", " ts ++ "]"

/-- An item in a line of the log: texts stand in quotation marks and are not cut. -/
def printLogItem : Item → Except Fault Text
  | .text t => .ok ("\"" ++ t ++ "\"")
  | x => printItem .log x

def printStack (xs : List Item) : Except Fault Text := (xs.mapM printLogItem).map bracketed

theorem exists_printLogItem (x : Item) : ∃ t, printLogItem x = .ok t := by
  cases x with
  | text t => exact ⟨_, rfl⟩
  | _ =>
      rw [printLogItem, printItem_eq]
      · exact ⟨_, rfl⟩
      · simp

theorem exists_printStack (xs : List Item) : ∃ t, printStack xs = .ok t := by
  have hall : ∃ ts, xs.mapM printLogItem = .ok ts := by
    induction xs with
    | nil => exact ⟨[], rfl⟩
    | cons x xs ih =>
        obtain ⟨t, ht⟩ := exists_printLogItem x
        obtain ⟨ts, hts⟩ := ih
        exact ⟨t :: ts, by simp [ht, hts, bind, Except.bind, pure, Except.pure]⟩
  obtain ⟨ts, hts⟩ := hall
  exact ⟨bracketed ts, by rw [printStack, hts]; rfl⟩

def logValue : Value → Except Fault Text
  | .item x => printLogItem x
  | v => value .log v

def values (vs : List Value) : Except Fault Text := (vs.mapM logValue).map bracketed

/-- A value that should be a sequence in a line of the log; one that counts as false is shown as
an empty one. -/
def sequence (v : Value) : Except Fault Text :=
  v.holds.bind fun b => if b then v.elements.bind values else .ok (bracketed [])

/-! ### Words about items -/

def kindOf : Value → Text
  | .item (.flag _) => "boolean"
  | .item (.number _) => "number"
  | .item (.text t) => if (afterHexMark? t).isSome then "hex" else "string"
  | .item (.bytes _) => "bytes"
  | .buffer _ => "bytes"
  | _ => "unknown"

def count (n : Value) : Except Fault Text :=
  n.plain.map fun t => t ++ (if n.equals 1 then (" item" : Text) else " items")

end Display

end ScriptTutor
