/-
**Values shown in messages.**

Main definitions:

* `ScriptTutor.Value.quote` — a value as a message quotes it;
* `ScriptTutor.Value.plain` — a value as a message names it: a text stands without quotes.
-/

import ScriptTutor.Binary64.Decimal
import ScriptTutor.Text.Quoted
import ScriptTutor.Value.Basic

set_option relaxedAutoImplicit false
set_option autoImplicit false

namespace ScriptTutor

namespace Item

/-- An item as a message quotes it; an integer of too many digits has no text. -/
def quote : Item → Except Fault Text
  | number n => printDecimal n
  | flag b => .ok (if b then ("True" : Text) else "False")
  | text t => .ok (Quoted.ofText t)
  | bytes bs => .ok (Quoted.ofBytes bs)

theorem quote_number {n : Int} {t : Text} (h : decimalText? n = some t) :
    (number n).quote = .ok t :=
  printDecimal_of_some h

/-- A list of items as a message quotes it; the first item without a text decides. -/
def quoteAll (xs : List Item) : Except Fault Text :=
  (xs.mapM quote).map fun ts => "[" ++ Text.joinWith ", " ts ++ "]"

end Item

namespace Value

mutual

/-- A value as a message quotes it. -/
def quote : Value → Except Fault Text
  | item x => x.quote
  | buffer bs => .ok (Quoted.ofBuffer bs)
  | view _ => .ok "<memory>"
  | released => .ok "<released memory>"
  | real x => .ok x.shown
  | absent => .ok "None"
  | list xs => (quoteEach xs).map fun ts => "[" ++ Text.joinWith ", " ts ++ "]"
  | tuple xs => (quoteEach xs).map fun ts =>
    "(" ++ Text.joinWith ", " ts ++ (if ts.length = 1 then (",)" : Text) else ")")
  | mapping => .ok "\x7b\x7d"

def quoteEach : List Value → Except Fault (List Text)
  | [] => .ok []
  | v :: vs =>
    match quote v with
    | .error e => .error e
    | .ok t => (quoteEach vs).map (t :: ·)

end

/-- A value as a message names it. -/
def plain : Value → Except Fault Text
  | item (.text t) => .ok t
  | v => v.quote

end Value

end ScriptTutor
