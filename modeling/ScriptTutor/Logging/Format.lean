/-
**Records of a log, and the formats of their lines.**

A format is a text in which placeholders stand for the attributes of a record.  Whether a format is
accepted, and what it makes of a record, are two questions: a format is accepted if some part of it
looks like a placeholder, and the other question is asked for each record anew.

Main definitions:

* `ScriptTutor.Logging.levelNamed`, `ScriptTutor.Logging.levelText` — levels and their names;
* `ScriptTutor.Logging.Record`, `ScriptTutor.Logging.Record.make` — what is logged;
* `ScriptTutor.Logging.Format.isValid` — whether a format is accepted.
-/

import ScriptTutor.Text.LetterCase
import ScriptTutor.Text.Word
import ScriptTutor.Value.Basic

set_option relaxedAutoImplicit false
set_option autoImplicit false

namespace ScriptTutor.Logging

/-! ### Levels -/

/-- The names of levels, some levels with two names; the first one is written. -/
def levelNames : List (Text × Int) :=
  [("CRITICAL", 50), ("FATAL", 50), ("ERROR", 40), ("WARNING", 30), ("WARN", 30), ("INFO", 20),
   ("DEBUG", 10), ("NOTSET", 0)]

def levelNamed (name : Text) : Except Fault Int :=
  match levelNames.lookup name.upper with
  | some level => .ok level
  | none => .error .noMember

/-- The level that a value names; only texts and byte strings have a letter case, and no byte string
is a name. -/
def levelOf : Value → Except Fault Int
  | .item (.text t) => levelNamed t
  | .item (.bytes _) => .error .wrongKind
  | .buffer _ => .error .wrongKind
  | _ => .error .noMember

/-- The name of a level.  One without a name is shown by its number, which may be too long for a
decimal numeral. -/
def levelText (level : Int) : Except Fault Text :=
  match levelNames.find? (·.2 == level) with
  | some (name, _) => .ok name
  | none => (printDecimal level).map ("Level " ++ ·)

theorem levelNamed_error {name : Text} {e : Fault} (h : levelNamed name = .error e) :
    e = .noMember := by
  rw [levelNamed] at h
  split at h
  · cases h
  · exact (Except.error.inj h).symm

/-- A level is without a name if its number is too long for a decimal numeral. -/
theorem levelText_eq_error {level : Int} (h : 10 ^ digitLimit ≤ level.natAbs) :
    levelText level = .error .digitLimit := by
  have hsmall : ∀ p ∈ levelNames, p.2.natAbs < 10 ^ 2 := by decide +kernel
  have hnone : levelNames.find? (·.2 == level) = none := by
    rw [List.find?_eq_none]
    intro p hp hlevel
    have hbound := hsmall p hp
    rw [eq_of_beq hlevel] at hbound
    exact absurd (Nat.lt_of_le_of_lt h hbound)
      (Nat.not_lt.2 (Nat.pow_le_pow_right (by decide) (by decide)))
  have hlong : ¬ (digitsText 10 level.natAbs).length ≤ digitLimit := by
    rw [length_digitsText_le_iff (by decide) (by decide)]
    exact Nat.not_lt.2 h
  rw [levelText, hnone, printDecimal, decimalText?, if_neg hlong]
  rfl

/-! ### Records -/

inductive Attribute where
  | text (t : Text)
  | number (n : Int)
  deriving DecidableEq

/-- What is logged.  The surroundings are what a record notes of the time and the place. -/
structure Record where
  logger : Text
  level : Int
  levelName : Text
  message : Text
  surroundings : List (Text × Attribute)
  deriving DecidableEq

namespace Record

/-- The record of a message; its level needs a name. -/
def make (logger : Text) (level : Int) (message : Text) (surroundings : List (Text × Attribute)) :
    Except Fault Record :=
  (levelText level).map fun levelName => ⟨logger, level, levelName, message, surroundings⟩

def attributes (r : Record) : List (Text × Attribute) :=
  ("name", .text r.logger) :: ("levelno", .number r.level) :: ("levelname", .text r.levelName) ::
    ("msg", .text r.message) :: ("message", .text r.message) :: r.surroundings

theorem make_error {logger : Text} {level : Int} {message : Text}
    {surroundings : List (Text × Attribute)} {e : Fault}
    (h : make logger level message surroundings = .error e) : e = .digitLimit := by
  rw [make, levelText] at h
  split at h
  · cases h
  · rw [printDecimal] at h
    split at h <;> cases h
    rfl

theorem logger_of_make {logger : Text} {level : Int} {message : Text}
    {surroundings : List (Text × Attribute)} {record : Record}
    (h : make logger level message surroundings = .ok record) : record.logger = logger := by
  rw [make] at h
  cases hname : levelText level with
  | error e => rw [hname] at h; cases h
  | ok levelName => rw [hname] at h; cases h; rfl

end Record

/-! ### Formats that are accepted -/

namespace Format

def standard : Text := "%(asctime)s [%(name)s] [%(levelname)s]: %(message)s"

def isFlag (c : CodePoint) : Bool := (Text.ofString "#0+ -").contains c

/-- The letters of conversions in either case, and the percent sign.  The last three code points
differ from one of the letters in their case alone. -/
def conversions : Text := "diouxefgcrsaDIOUXEFGCRSA%\u0130\u0131\u017F"

def isConversion (c : CodePoint) : Bool := conversions.contains c

def startsCount : Text → Bool
  | [] => false
  | c :: _ => c = '*' || c.isDigit

/-- What follows a count, an asterisk or digits, which need not be there. -/
def afterCount : Text → Text
  | [] => []
  | c :: t => if c = '*' then t else (c :: t).dropWhile (·.isDigit)

/-- What follows a precision, which need not be there. -/
def afterPrecision : Text → Text
  | [] => []
  | c :: t => if c = '.' && startsCount t then afterCount t else c :: t

/-- What follows a key in parentheses. -/
def afterKey? : Text → Option Text
  | [] => none
  | c :: t =>
    if c = '(' && !(t.takeWhile (·.isWord)).isEmpty then
      match t.dropWhile (·.isWord) with
      | d :: rest => if d = ')' then some rest else none
      | [] => none
    else none

/-- Whether a text starts with a placeholder: a percent sign, a key in parentheses, flags, a width,
a precision, and a conversion. -/
def startsPlaceholder : Text → Bool
  | [] => false
  | c :: t =>
    c = '%' &&
      match afterKey? t with
      | some rest => (afterPrecision (afterCount (rest.dropWhile isFlag))).head?.any isConversion
      | none => false

/-- A format is accepted if a placeholder starts somewhere in it. -/
def isValid : Text → Bool
  | [] => false
  | c :: t => startsPlaceholder (c :: t) || isValid t

theorem isValid_standard : isValid standard = true := by
  decide +kernel

end Format

end ScriptTutor.Logging
