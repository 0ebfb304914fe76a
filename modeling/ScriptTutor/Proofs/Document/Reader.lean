/-
**Documents are read back from their JSON text.**

A reader takes the tokens of a JSON text one by one.  It keeps the lists and records that are open,
innermost first, each with the parts that are complete, and knows what may come next.  So every
token is taken in one step, and no document is read twice.  Numbers with a fraction or an exponent
are not read.

Main definitions:

* `ScriptTutor.Json.ofWord?` — the document of a word;
* `ScriptTutor.Json.Frame`, `ScriptTutor.Json.Phase`, `ScriptTutor.Json.Assembly` — an open list or
  record, what may come next, and the state of a reader;
* `ScriptTutor.Json.Assembly.take` — how a reader takes a token;
* `ScriptTutor.Json.read?` — the document that a JSON text denotes.

Main results:

* `ScriptTutor.Json.ofWord?_decimalText` — a decimal numeral **is read as its number**;
* `ScriptTutor.Json.Assembly.foldlM_tokens` — the tokens of a document complete that document;
* `ScriptTutor.Json.read?_render` — **a document is read back from its text**, with its pairs
  joined;
* `ScriptTutor.Report.read?_toText` — **every report has a text, and is read back from it**.
-/

import ScriptTutor.Proofs.Document.Tokens
import ScriptTutor.Proofs.Machine.Passes
import ScriptTutor.Transcript

set_option relaxedAutoImplicit false
set_option autoImplicit false

namespace ScriptTutor

namespace Json

/-! ### Words -/

/-- The number that digits denote; there is no zero in front of other digits. -/
def natural? (ds : Text) : Option Nat :=
  if ds.head? = some (CodePoint.ofChar '0') ∧ ds.length ≠ 1 then none else naturalOf? 10 ds

/-- The integer that a word denotes. -/
def integer? : Text → Option Int
  | [] => none
  | c :: ds =>
    if c = '-' then (natural? ds).map (signed true) else (natural? (c :: ds)).map (signed false)

/-- The document of a word. -/
def ofWord? (w : Text) : Option Document :=
  match integer? w with
  | some n => some (.number n)
  | none =>
    if w = Text.ofString "null" then some .null
    else if w = Text.ofString "true" then some (.flag true)
    else if w = Text.ofString "false" then some (.flag false)
    else none

theorem hexDigit_ne_zero : ∀ d, 0 < d → d < 10 → Bytes.hexDigit d ≠ '0' := by
  intro d hpos hlt h
  have hzero := Bytes.digitValue?_hexDigit d (by omega)
  rw [h] at hzero
  have hd : d = 0 := Option.some.inj (hzero.symm.trans rfl)
  omega

theorem natural?_digitsText (n : Nat) : natural? (digitsText 10 n) = some n := by
  have hread : naturalOf? 10 (digitsText 10 n) = some n :=
    naturalOf?_digitsText (by decide) (by decide) n
  rw [natural?, if_neg, hread]
  rintro ⟨hhead, hlen⟩
  by_cases hn : 0 < n
  · obtain ⟨d, hpos, hlt, hd⟩ := head?_digitsText (b := 10) (by decide) hn
    rw [hd] at hhead
    exact hexDigit_ne_zero d hpos hlt (Option.some.inj hhead)
  · obtain rfl : n = 0 := by omega
    exact hlen rfl

/-- A digit is no minus sign. -/
theorem hexDigit_ne_minus : ∀ d, d < 10 → Bytes.hexDigit d ≠ '-' := by
  decide

theorem integer?_decimalText (n : Int) : integer? (decimalText n) = some n := by
  have hread := natural?_digitsText n.natAbs
  rw [decimalText, signText]
  split
  · next hneg =>
    have hminus : ("-" : Text) ++ digitsText 10 n.natAbs =
        CodePoint.ofChar '-' :: digitsText 10 n.natAbs := rfl
    have hsigned : signed true n.natAbs = n := by
      simp only [signed, if_true]
      omega
    rw [hminus, integer?, if_pos rfl, hread, Option.map_some, hsigned]
  · next hneg =>
    obtain ⟨c, ds, hds⟩ :=
      List.exists_cons_of_ne_nil (digitsText_ne_nil (b := 10) (by decide) n.natAbs)
    have hc : c ≠ '-' := by
      obtain ⟨d, hd, rfl⟩ := exists_digit_of_mem (b := 10) (by decide) (hds ▸ List.mem_cons_self)
      exact hexDigit_ne_minus d hd
    have hplus : integer? ("" ++ digitsText 10 n.natAbs) =
        (natural? (digitsText 10 n.natAbs)).map (signed false) := by
      rw [hds]
      exact if_neg hc
    have hsigned : signed false n.natAbs = n := by
      simp only [signed, Bool.false_eq_true, if_false]
      omega
    rw [hplus, hread, Option.map_some, hsigned]

/-- A decimal numeral **is read as its number**. -/
theorem ofWord?_decimalText (n : Int) : ofWord? (decimalText n) = some (.number n) := by
  rw [ofWord?, integer?_decimalText]

/-! ### The reader -/

/-- A list or a record that is open. -/
inductive Frame where
  /-- A list with the elements that are complete. -/
  | list (before : List Document)
  /-- A record with the fields that are complete, and the name of the next one. -/
  | record (before : List (Text × Document)) (key : Text)

/-- What may come next. -/
inductive Phase where
  /-- A document has to come. -/
  | start
  /-- A list has just been opened: its first element or its end. -/
  | first
  /-- A record has just been opened: the name of its first field or its end. -/
  | firstKey
  /-- The name of a field has to come, behind other fields. -/
  | key (before : List (Text × Document))
  /-- A colon has to come, behind the name of a field. -/
  | colon (before : List (Text × Document)) (key : Text)
  /-- A document is complete: what continues or ends the list or the record around it. -/
  | complete (d : Document)

/-- The state of a reader: the lists and records that are open, innermost first, and what may come
next. -/
structure Assembly where
  opened : List Frame
  phase : Phase

/-- What the first token of a document makes of it. -/
def begin? : Token → Option Phase
  | .text t => some (.complete (.text t))
  | .word w => (ofWord? w).map .complete
  | .mark .openList => some .first
  | .mark .openRecord => some .firstKey
  | _ => none

namespace Assembly

/-- How a reader goes on behind a complete document; nothing if the mark has no place there. -/
def continue? (d : Document) : List Frame → Mark → Option Assembly
  | .list xs :: fs, .comma => some ⟨.list (xs ++ [d]) :: fs, .start⟩
  | .list xs :: fs, .closeList => some ⟨fs, .complete (.list (xs ++ [d]))⟩
  | .record fields k :: fs, .comma => some ⟨fs, .key (fields ++ [(k, d)])⟩
  | .record fields k :: fs, .closeRecord =>
    some ⟨fs, .complete (.record (fields ++ [(k, d)]))⟩
  | _, _ => none

/-- How a reader takes a token; nothing if no JSON text has it there. -/
def take : Assembly → Token → Option Assembly
  | ⟨fs, .start⟩, t => (begin? t).map (Assembly.mk fs)
  | ⟨fs, .first⟩, t =>
    if t = .mark .closeList then some ⟨fs, .complete (.list [])⟩
    else (begin? t).map (Assembly.mk (.list [] :: fs))
  | ⟨fs, .firstKey⟩, .mark .closeRecord => some ⟨fs, .complete (.record [])⟩
  | ⟨fs, .firstKey⟩, .text k => some ⟨fs, .colon [] k⟩
  | ⟨fs, .key fields⟩, .text k => some ⟨fs, .colon fields k⟩
  | ⟨fs, .colon fields k⟩, .mark .colon => some ⟨.record fields k :: fs, .start⟩
  | ⟨fs, .complete d⟩, .mark m => continue? d fs m
  | _, _ => none

end Assembly

/-- The document that a JSON text denotes. -/
def read? (t : Text) : Option Document :=
  match (tokens? t).bind fun ts => ts.foldlM Assembly.take ⟨[], .start⟩ with
  | some ⟨[], .complete d⟩ => some d
  | _ => none

/-- Blanks, the case of digits and escapes that are not needed make no difference. -/
example : read? "[-12 ,\t\"\\u00E9\\/\", [null]]" =
    some (.list [.number (-12), .text [0xE9, 0x2F], .list [.null]]) := rfl

/-- A comma has to be followed by an element. -/
example : read? "[1,]" = none := rfl

namespace Assembly

open Document

theorem foldlM_trans {ts us : List Token} {a b c : Assembly} (h : ts.foldlM take a = some b)
    (h' : us.foldlM take b = some c) : (ts ++ us).foldlM take a = some c := by
  rw [List.foldlM_append, h]
  exact h'

/-- No document begins with the end of a list. -/
theorem exists_tokens_eq_cons (d : Document) :
    ∃ t ts, d.tokens = t :: ts ∧ t ≠ .mark .closeList := by
  cases d with
  | flag b => cases b <;> exact ⟨_, _, rfl, by decide⟩
  | number n => exact ⟨_, _, rfl, Token.noConfusion⟩
  | real x => exact ⟨_, _, rfl, Token.noConfusion⟩
  | text t => exact ⟨_, _, rfl, Token.noConfusion⟩
  | null => exact ⟨_, _, rfl, by decide⟩
  | list xs => cases xs <;> exact ⟨_, _, rfl, by decide⟩
  | record fields =>
      cases fields with
      | nil => exact ⟨_, _, rfl, by decide⟩
      | cons f fields => exact ⟨_, _, rfl, by decide⟩

/-- It is all the same whether the list around a document has just been opened or awaits an
element. -/
theorem foldlM_first (d : Document) (fs : List Frame) :
    d.tokens.foldlM take ⟨fs, .first⟩ = d.tokens.foldlM take ⟨.list [] :: fs, .start⟩ := by
  obtain ⟨t, ts, hd, ht⟩ := exists_tokens_eq_cons d
  have htake : take ⟨fs, .first⟩ t = take ⟨.list [] :: fs, .start⟩ t := if_neg ht
  rw [hd, List.foldlM_cons, List.foldlM_cons, htake]

-- The recursion is on the document.  What is open around it has to be arbitrary, because the parts
-- of a list or a record are read while that list or record is open.

mutual

/-- The tokens of a document complete that document, whatever is open around it. -/
theorem foldlM_tokens : ∀ (d : Document) (fs : List Frame), d.hasReal = false →
    d.tokens.foldlM take ⟨fs, .start⟩ = some ⟨fs, .complete d⟩
  | null, _, _ => rfl
  | flag true, _, _ => rfl
  | flag false, _, _ => rfl
  | number n, fs, _ => by
      rw [tokens, List.foldlM_cons, take, begin?, ofWord?_decimalText]
      rfl
  | real _, _, h => nomatch h
  | text t, _, _ => rfl
  | list [], _, _ => rfl
  | list (x :: xs), fs, h => by
      rw [hasReal, listHasReal, Bool.or_eq_false_iff] at h
      have hopen : [Token.mark .openList].foldlM take ⟨fs, .start⟩ = some ⟨fs, .first⟩ := rfl
      have hfirst : x.tokens.foldlM take ⟨fs, .first⟩ = some ⟨.list [] :: fs, .complete x⟩ := by
        rw [foldlM_first, foldlM_tokens x _ h.1]
      rw [tokens, List.append_assoc _ (moreTokens xs)]
      exact foldlM_trans (foldlM_trans hopen hfirst) (foldlM_moreTokens xs [] x fs h.2)
  | record [], _, _ => rfl
  | record ((k, x) :: fields), fs, h => by
      rw [hasReal, fieldsHaveReal, Bool.or_eq_false_iff] at h
      have hkey : [Token.mark .openRecord, .text k, .mark .colon].foldlM take ⟨fs, .start⟩ =
          some ⟨.record [] k :: fs, .start⟩ := rfl
      rw [tokens, List.append_assoc _ (fieldTokens fields)]
      exact foldlM_trans (foldlM_trans hkey (foldlM_tokens x _ h.1))
        (foldlM_fieldTokens fields [] k x fs h.2)

theorem foldlM_moreTokens : ∀ (xs before : List Document) (d : Document) (fs : List Frame),
    listHasReal xs = false →
    (moreTokens xs ++ [Token.mark .closeList]).foldlM take ⟨.list before :: fs, .complete d⟩ =
      some ⟨fs, .complete (.list (before ++ d :: xs))⟩
  | [], before, d, fs, _ => rfl
  | x :: xs, before, d, fs, h => by
      rw [listHasReal, Bool.or_eq_false_iff] at h
      have hcomma : [Token.mark .comma].foldlM take ⟨.list before :: fs, .complete d⟩ =
          some ⟨.list (before ++ [d]) :: fs, .start⟩ := rfl
      have hrest := foldlM_moreTokens xs (before ++ [d]) x fs h.2
      rw [List.append_assoc] at hrest
      rw [moreTokens, List.append_assoc _ (moreTokens xs)]
      exact foldlM_trans (foldlM_trans hcomma (foldlM_tokens x _ h.1)) hrest

theorem foldlM_fieldTokens : ∀ (fields before : List (Text × Document)) (k : Text) (d : Document)
    (fs : List Frame), fieldsHaveReal fields = false →
    (fieldTokens fields ++ [Token.mark .closeRecord]).foldlM take
        ⟨.record before k :: fs, .complete d⟩ =
      some ⟨fs, .complete (.record (before ++ (k, d) :: fields))⟩
  | [], before, k, d, fs, _ => rfl
  | (k', x) :: fields, before, k, d, fs, h => by
      rw [fieldsHaveReal, Bool.or_eq_false_iff] at h
      have hkey : [Token.mark .comma, .text k', .mark .colon].foldlM take
          ⟨.record before k :: fs, .complete d⟩ =
            some ⟨.record (before ++ [(k, d)]) k' :: fs, .start⟩ := rfl
      have hrest := foldlM_fieldTokens fields (before ++ [(k, d)]) k' x fs h.2
      rw [List.append_assoc] at hrest
      rw [fieldTokens, List.append_assoc _ (fieldTokens fields)]
      exact foldlM_trans (foldlM_trans hkey (foldlM_tokens x _ h.1)) hrest

end

end Assembly

/-- **A document is read back from its text**, with its pairs joined. -/
theorem read?_render {d : Document} (h : d.hasReal = false) :
    read? d.toText = some (d.mapTexts Text.joined) := by
  have hreal : (d.mapTexts Text.joined).hasReal = false := by
    rw [Document.hasReal_mapTexts, h]
  rw [read?, tokens?_toText h, Option.bind_some, Assembly.foldlM_tokens _ [] hreal]

/-- Two surrogates that make a pair are read back as the code point that they stand for. -/
example : read? (Document.text [0xD83D, 0xDE00]).toText = some (.text [0x1F600]) := rfl

end Json

/-! ### Reports -/

theorem Item.hasReal_toDocument (x : Item) : x.toDocument.hasReal = false := by
  cases x with
  | number n =>
      rw [toDocument, portable]
      split <;> rfl
  | _ => rfl

theorem Document.hasReal_ofStack (xs : List Item) : (ofStack xs).hasReal = false := by
  rw [ofStack, hasReal, listHasReal_eq_false_iff]
  intro d hd
  obtain ⟨x, -, rfl⟩ := List.mem_map.1 hd
  exact x.hasReal_toDocument

theorem Document.fieldsHaveReal_errorField (error : Option Text) :
    fieldsHaveReal (errorField (error.map .text)) = false := by
  cases error <;> rfl

theorem Step.hasReal_toDocument (s : Step) : s.toDocument.hasReal = false := by
  simp only [toDocument, Document.ofStep, Document.hasReal, Document.fieldsHaveReal,
    Document.hasReal_ofStack, Document.fieldsHaveReal_errorField, Bool.or_false]

namespace Report

theorem hasReal_toDocument (r : Report) : r.toDocument.hasReal = false := by
  have hsteps : Document.listHasReal (r.steps.map Step.toDocument) = false := by
    rw [Document.listHasReal_eq_false_iff]
    intro d hd
    obtain ⟨s, -, rfl⟩ := List.mem_map.1 hd
    exact s.hasReal_toDocument
  simp only [toDocument, Document.ofReport, Document.hasReal, Document.fieldsHaveReal, hsteps,
    Document.hasReal_ofStack, Document.fieldsHaveReal_errorField, Bool.or_false]

/-- **Every report has a text, and is read back from it**, with its pairs joined.  So it is read
back as it is if no text in it has a high surrogate directly before a low one. -/
theorem read?_toText (r : Report) :
    r.toTranscript.toText = .ok r.toText ∧
    Json.read? r.toText = some (r.toDocument.mapTexts Text.joined) ∧
    ((∀ t ∈ r.toDocument.texts, t.IsPairFree) → Json.read? r.toText = some r.toDocument) := by
  have hread : Json.read? r.toText = some (r.toDocument.mapTexts Text.joined) :=
    Json.read?_render r.hasReal_toDocument
  refine ⟨Transcript.toText_toTranscript r, hread, ?_⟩
  intro hpairs
  rw [hread, Document.mapTexts_eq_self _ fun t ht => Text.joined_eq_self (hpairs t ht)]

/-- Quotation marks, code points of all planes, a lone surrogate and a wide integer come back. -/
theorem read?_toText_mixed :
    ∃ r f, Engine.fresh.execute (.list [.item (.text [0x22, 0xE9, 0x1F600, 0xD800]),
        .item (.number (.negSucc (2 ^ 256))), .item (.bytes [0x0A, 0xFF]), .item (.text "OP_ADD"),
        .item (.text "op_add")]) = (.ok r, f) ∧
      r.toTranscript.toText = .ok r.toText ∧ (∀ t ∈ r.toDocument.texts, t.IsPairFree) ∧
      Json.read? r.toText = some r.toDocument := by
  have hpairs : ∀ r ∈ (Engine.fresh.execute (.list [.item (.text [0x22, 0xE9, 0x1F600, 0xD800]),
      .item (.number (.negSucc (2 ^ 256))), .item (.bytes [0x0A, 0xFF]), .item (.text "OP_ADD"),
      .item (.text "op_add")])).1.toOption, ∀ t ∈ r.toDocument.texts, t.IsPairFree := by
    decide +kernel
  obtain ⟨r, f, h⟩ : ∃ r f,
      Engine.fresh.execute (.list [.item (.text [0x22, 0xE9, 0x1F600, 0xD800]),
        .item (.number (.negSucc (2 ^ 256))), .item (.bytes [0x0A, 0xFF]), .item (.text "OP_ADD"),
        .item (.text "op_add")]) = (.ok r, f) :=
    Engine.exists_report_of_isItem (by simp [Value.IsItem, Value.toItem])
  rw [h] at hpairs
  have hfree : ∀ t ∈ r.toDocument.texts, t.IsPairFree := hpairs r rfl
  obtain ⟨htext, -, hread⟩ := read?_toText r
  exact ⟨r, f, h, htext, hfree, hread hfree⟩

end Report

end ScriptTutor
