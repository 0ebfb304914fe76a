/-
**The lines that formats make of records.**

A placeholder names an attribute of the record.  Texts and numbers are rendered as texts, and
numbers as decimal numerals as well, with flags, a width and a precision.  A format that asks for
anything else makes no line of the record.

Main definitions:

* `ScriptTutor.Logging.Directive` — a placeholder as far as it was read;
* `ScriptTutor.Logging.Format.render` — the line of a record.

Main results:

* `ScriptTutor.Logging.Format.renderFrom_literal`,
  `ScriptTutor.Logging.Format.renderFrom_placeholder` — what the parts of a format stand for;
* `ScriptTutor.Logging.Format.render_standard` — the line of the standard format.
-/

import ScriptTutor.Logging.Format

set_option relaxedAutoImplicit false
set_option autoImplicit false

namespace ScriptTutor.Logging

/-! ### Placeholders -/

/-- An attribute, and how it is to be shown. -/
structure Directive where
  value : Attribute
  flags : Text
  width : Nat
  precision : Option Nat

namespace Directive

def has (d : Directive) (flag : CodePoint) : Bool := d.flags.contains flag

def pad (d : Directive) (t : Text) : Text :=
  let blanks := List.replicate (d.width - t.length) (' ' : CodePoint)
  if d.has '-' then t ++ blanks else blanks ++ t

/-- The attribute as a text, of which the precision is the greatest length. -/
def asText (d : Directive) : Option Text :=
  let cut := fun t : Text => d.pad (d.precision.elim t t.take)
  match d.value with
  | .text t => some (cut t)
  | .number n => (printDecimal n).toOption.map cut

/-- The sign that stands before the digits of a number. -/
def sign (d : Directive) (n : Int) : Text :=
  if n < 0 then "-" else if d.has '+' then "+" else if d.has ' ' then " " else ""

/-- The attribute as a decimal numeral, of which the precision is the least number of digits.  Zeros
fill it up between the sign and the digits, and blanks on either side of both. -/
def asNumber (d : Directive) : Option Text :=
  match d.value with
  | .text _ => none
  | .number n =>
    (printDecimal n.natAbs).toOption.map fun digits =>
      let zeros := fun length : Nat =>
        List.replicate (length - digits.length) ('0' : CodePoint)
      let sign := d.sign n
      let least := zeros (d.precision.getD 0)
      if d.has '0' && !d.has '-' then
        sign ++ zeros (max (least ++ digits).length (d.width - sign.length)) ++ digits
      else d.pad (sign ++ least ++ digits)

/-- The directive after one more code point that is no conversion. -/
def read (d : Directive) (c : CodePoint) : Option Directive :=
  match d.precision with
  | none =>
    if d.width = 0 ∧ Format.isFlag c then some { d with flags := c :: d.flags }
    else if c = '.' then some { d with precision := some 0 }
    else (digitValue? 10 c).map fun n => { d with width := d.width * 10 + n }
  | some p => (digitValue? 10 c).map fun n => { d with precision := some (p * 10 + n) }

theorem asText_text (t : Text) : asText ⟨.text t, [], 0, none⟩ = some t := by
  simp [asText, pad, has]

end Directive

/-! ### Lines -/

namespace Format

inductive Reading where
  | plain
  | percent
  /-- In a key, of which the last code point was read first. -/
  | key (reversed : Text)
  | directive (d : Directive)

/-- What the rest of a format makes of a record. -/
def renderFrom (record : Record) : Reading → Text → Option Text
  | .plain, [] => some []
  | _, [] => none
  | .plain, c :: t =>
    if c = '%' then renderFrom record .percent t else (renderFrom record .plain t).map (c :: ·)
  | .percent, c :: t =>
    if c = '%' then (renderFrom record .plain t).map (c :: ·)
    else if c = '(' then renderFrom record (.key []) t
    else none
  | .key reversed, c :: t =>
    if c = ')' then
      match record.attributes.lookup reversed.reverse with
      | some value => renderFrom record (.directive ⟨value, [], 0, none⟩) t
      | none => none
    else renderFrom record (.key (c :: reversed)) t
  | .directive d, c :: t =>
    if c = 's' then
      match d.asText, renderFrom record .plain t with
      | some shown, some rest => some (shown ++ rest)
      | _, _ => none
    else if c = 'd' ∨ c = 'i' ∨ c = 'u' then
      match d.asNumber, renderFrom record .plain t with
      | some shown, some rest => some (shown ++ rest)
      | _, _ => none
    else
      match d.read c with
      | some d => renderFrom record (.directive d) t
      | none => none

def render (format : Text) (record : Record) : Option Text := renderFrom record .plain format

variable (record : Record)

/-- What is no percent sign stands in the line as it is. -/
theorem renderFrom_literal {t : Text} (h : ('%' : CodePoint) ∉ t) (rest : Text) :
    renderFrom record .plain (t ++ rest) = (renderFrom record .plain rest).map (t ++ ·) := by
  induction t with
  | nil => simp
  | cons c t ih =>
      rw [List.cons_append, renderFrom, if_neg (Ne.symm (List.ne_of_not_mem_cons h)),
        ih (List.not_mem_of_not_mem_cons h),
        Option.map_map]
      rfl

theorem renderFrom_key {key t : Text} (hkey : (')' : CodePoint) ∉ key) (read rest : Text)
    (h : record.attributes.lookup (read.reverse ++ key) = some (.text t)) :
    renderFrom record (.key read) (key ++ ")s" ++ rest) =
      (renderFrom record .plain rest).map (t ++ ·) := by
  induction key generalizing read with
  | nil =>
      rw [List.append_nil] at h
      change renderFrom record (.key read) ((')' : CodePoint) :: 's' :: rest) = _
      rw [renderFrom, if_pos rfl, h]
      change renderFrom record (.directive ⟨.text t, [], 0, none⟩) (('s' : CodePoint) :: rest) = _
      rw [renderFrom, if_pos rfl, Directive.asText_text]
      cases renderFrom record .plain rest <;> rfl
  | cons c key ih =>
      rw [List.cons_append, List.cons_append, renderFrom,
        if_neg (Ne.symm (List.ne_of_not_mem_cons hkey))]
      exact ih (List.not_mem_of_not_mem_cons hkey) (c :: read) (by simpa using h)

/-- A placeholder for a text stands for this text. -/
theorem renderFrom_placeholder {key t : Text} (hkey : (')' : CodePoint) ∉ key) (rest : Text)
    (h : record.attributes.lookup key = some (.text t)) :
    renderFrom record .plain ("%(" ++ key ++ ")s" ++ rest) =
      (renderFrom record .plain rest).map (t ++ ·) := by
  rw [List.append_assoc, List.append_assoc]
  change renderFrom record (.key []) (key ++ (Text.ofString ")s" ++ rest)) = _
  rw [← List.append_assoc]
  exact renderFrom_key record hkey [] rest h

/-- **The line of the standard format** shows the time, the logger, the level and the message. -/
theorem render_standard {time : Text}
    (h : record.surroundings.lookup ("asctime" : Text) = some (.text time)) :
    render standard record = some
      (time ++ " [" ++ record.logger ++ "] [" ++ record.levelName ++ "]: " ++ record.message) := by
  have hparts : standard = ("%(" : Text) ++ "asctime" ++ ")s" ++ (" [" ++
      ("%(" ++ "name" ++ ")s" ++ ("] [" ++ ("%(" ++ "levelname" ++ ")s" ++ ("]: " ++
      ("%(" ++ "message" ++ ")s" ++ ([] : Text))))))) := by
    decide +kernel
  have htime : record.attributes.lookup ("asctime" : Text) = some (.text time) := h
  rw [render, hparts, renderFrom_placeholder record (by decide +kernel) _ htime,
    renderFrom_literal record (by decide +kernel),
    renderFrom_placeholder record (by decide +kernel) _ (t := record.logger) rfl,
    renderFrom_literal record (by decide +kernel),
    renderFrom_placeholder record (by decide +kernel) _ (t := record.levelName) rfl,
    renderFrom_literal record (by decide +kernel),
    renderFrom_placeholder record (by decide +kernel) _ (t := record.message) rfl]
  simp [renderFrom]

end Format

end ScriptTutor.Logging
