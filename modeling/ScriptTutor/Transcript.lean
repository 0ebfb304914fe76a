/-
**Transcripts put together by hand.**

A caller may put a report together by hand.  Then any value may stand in it, and it has a document
only as far as its values have one.

Main definitions:

* `ScriptTutor.Transcript` — a report of values, with its steps;
* `ScriptTutor.Document.ofValue` — the document of a value;
* `ScriptTutor.Transcript.toDocument` — the document of a transcript;
* `ScriptTutor.Report.toTranscript` — a report as a transcript.

Main result:

* `ScriptTutor.Transcript.toDocument_toTranscript` — **a report of the machine** always has a
  document, and it is the same one.
-/

import ScriptTutor.Report
import ScriptTutor.Value.Reading

set_option relaxedAutoImplicit false
set_option autoImplicit false

namespace ScriptTutor

/-! ### Documents of values -/

namespace Document

/-- The document of an integer, unless its text would have too many digits. -/
def ofInteger (n : Int) : Except Fault Document :=
  (printDecimal n).map fun _ => .number n

mutual

/-- The document of a value that lies inside a document; bytes of any kind have none. -/
def ofValue : Value → Except Fault Document
  | .item (.number n) => ofInteger n
  | .item (.flag b) => .ok (.flag b)
  | .item (.text t) => .ok (.text t)
  | .real x => .ok (.real x)
  | .absent => .ok .null
  | .list vs => (ofValues vs).map .list
  | .tuple vs => (ofValues vs).map .list
  | .mapping => .ok (.record [])
  | _ => .error .wrongKind

def ofValues : List Value → Except Fault (List Document)
  | [] => .ok []
  | v :: vs =>
    match ofValue v with
    | .ok d => (ofValues vs).map (d :: ·)
    | .error e => .error e

end

/-- The document of a value on a stack: an item is made readable for other programs. -/
def ofEntry : Value → Except Fault Document
  | .item x => ofValue (.item x.portable)
  | v => ofValue v

def ofEntries (vs : List Value) : Except Fault Document := (vs.mapM ofEntry).map .list

/-- The document of an error; an absent value is none. -/
def ofError : Value → Except Fault (Option Document)
  | .absent => .ok none
  | v => (ofValue v).map some

end Document

/-! ### Transcripts -/

namespace Transcript

/-- A step of values. -/
structure Entry where
  label : Value
  before : List Value
  after : List Value
  success : Value
  error : Value

def Entry.toDocument (s : Entry) : Except Fault Document := do
  let label ← Document.ofValue s.label
  let before ← Document.ofEntries s.before
  let after ← Document.ofEntries s.after
  let success ← Document.ofValue s.success
  let error ← Document.ofError s.error
  return .ofStep label before after success error

end Transcript

structure Transcript where
  success : Value
  finalStack : List Value
  steps : List Transcript.Entry
  error : Value

namespace Transcript

/-- The position of the last step, if that step failed. -/
def failedStep? (r : Transcript) : Except Fault (Option Nat) :=
  match r.steps.getLast? with
  | some s => s.success.holds.map fun success => if success then none else some (r.steps.length - 1)
  | none => .ok none

def toDocument (r : Transcript) : Except Fault Document := do
  let success ← Document.ofValue r.success
  let finalStack ← Document.ofEntries r.finalStack
  let steps ← r.steps.mapM Entry.toDocument
  let error ← Document.ofError r.error
  return .ofReport success finalStack (.list steps) error

def toText (r : Transcript) : Except Fault Text := r.toDocument.map Document.toText

end Transcript

/-! ### Reports as transcripts -/

/-- The value of an error that may be absent. -/
def Value.ofError : Option Text → Value
  | some t => item (.text t)
  | none => absent

def Step.toEntry (s : Step) : Transcript.Entry :=
  ⟨.item (.text s.label), s.before.map .item, s.after.map .item, .item (.flag s.success),
    .ofError s.error⟩

/-- A report as a transcript. -/
def Report.toTranscript (r : Report) : Transcript :=
  ⟨.item (.flag r.success), r.finalStack.map .item, r.steps.map Step.toEntry, .ofError r.error⟩

namespace Document

theorem ofInteger_of_not_wide {n : Int} (h : isWide n = false) : ofInteger n = .ok (.number n) := by
  rw [ofInteger, printDecimal_of_some (decimalText?_of_not_wide h)]
  rfl

/-- An item always has a document, because wide integers and byte strings become texts. -/
theorem ofEntry_item (x : Item) : ofEntry (.item x) = .ok x.toDocument := by
  cases x with
  | number n =>
      rw [ofEntry, Item.toDocument, Item.portable]
      split
      · rfl
      · next h =>
        rw [ofValue, ofInteger_of_not_wide (Bool.eq_false_iff.2 h)]
        rfl
  | _ => rfl

end Document

namespace Transcript

theorem ofEntries_items (xs : List Item) :
    Document.ofEntries (xs.map .item) = .ok (.ofStack xs) := by
  have : (xs.map Value.item).mapM Document.ofEntry = .ok (xs.map Item.toDocument) := by
    induction xs with
    | nil => rfl
    | cons x xs ih => simp [Document.ofEntry_item, ih, bind, Except.bind, pure, Except.pure]
  rw [Document.ofEntries, this]
  rfl

theorem ofError_ofError (error : Option Text) :
    Document.ofError (.ofError error) = .ok (error.map .text) := by
  cases error <;> rfl

theorem toDocument_toEntry (s : Step) : s.toEntry.toDocument = .ok s.toDocument := by
  simp only [Entry.toDocument, Step.toEntry, ofEntries_items, ofError_ofError, Document.ofValue,
    bind, Except.bind, pure, Except.pure, Step.toDocument]

/-- A report of the machine always has a document, and it is the same one. -/
theorem toDocument_toTranscript (r : Report) : r.toTranscript.toDocument = .ok r.toDocument := by
  have : (r.steps.map Step.toEntry).mapM Entry.toDocument = .ok (r.steps.map Step.toDocument) := by
    induction r.steps with
    | nil => rfl
    | cons s ss ih => simp [toDocument_toEntry, ih, bind, Except.bind, pure, Except.pure]
  simp only [toDocument, Report.toTranscript, ofEntries_items, ofError_ofError, Document.ofValue,
    this, bind, Except.bind, pure, Except.pure, Report.toDocument]

theorem toText_toTranscript (r : Report) : r.toTranscript.toText = .ok r.toText := by
  rw [toText, toDocument_toTranscript]
  rfl

end Transcript

end ScriptTutor
