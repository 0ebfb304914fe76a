/-
**Which names run.**

A name runs only if two tables agree on it: the catalog must not disable it, and the dispatch
table must have an entry for it.  The catalog looks a name up in capitals, the dispatch table as it
is spelled.  This module proves that the two tables fit together, so that every later proof can
speak of one lookup, `ScriptTutor.Dispatch.resolve`.

Main definitions:

* `ScriptTutor.Dispatch.resolve` — the entry that runs under a name, or why none does;
* `ScriptTutor.Flow.name`, `ScriptTutor.Flow.ofName?` — the names of the opcodes of conditionals;
* `ScriptTutor.Opcode.operands` — how many items an opcode takes off the main stack;
* `ScriptTutor.Dispatch.Consistent` — what the two tables say of an entry.

Main results:

* `ScriptTutor.Dispatch.consistent_of_mem` — **every entry of the dispatch table is consistent**;
* `ScriptTutor.Dispatch.resolve_eq_ok_iff` — a name resolves to exactly the entry that bears it;
* `ScriptTutor.Dispatch.exists_resolve_upper_iff` — **the two tables list the same names**: the
  capitals of a text resolve exactly if the catalog enables the text;
* `ScriptTutor.Dispatch.resolve_flow`, `ScriptTutor.Dispatch.opcode_of_resolve` — the opcodes of
  conditionals are those with the four names.
-/

import ScriptTutor.Catalog
import ScriptTutor.Opcode.Dispatch

set_option relaxedAutoImplicit false
set_option autoImplicit false

namespace ScriptTutor

deriving instance DecidableEq for DispatchEntry

/-! ### The names of the opcodes of conditionals -/

namespace Flow

def name : Flow → Text
  | onTrue => "OP_IF"
  | onFalse => "OP_NOTIF"
  | otherwise => "OP_ELSE"
  | close => "OP_ENDIF"

def ofName? (name : Text) : Option Flow :=
  [onTrue, onFalse, otherwise, close].find? (·.name == name)

/-- Opens a conditional whose first arm is for items of the given truth. -/
def opening (expected : Bool) : Flow := if expected then onTrue else onFalse

theorem cases_opening (f : Flow) :
    (∃ expected, f = .opening expected) ∨ f = .otherwise ∨ f = .close := by
  cases f with
  | onTrue => exact .inl ⟨true, rfl⟩
  | onFalse => exact .inl ⟨false, rfl⟩
  | otherwise => exact .inr (.inl rfl)
  | close => exact .inr (.inr rfl)

/-- A name stands for the opcode of conditionals that bears it. -/
theorem ofName?_eq_some_iff {name : Text} {f : Flow} : ofName? name = some f ↔ f.name = name := by
  constructor
  · intro h
    simpa using List.find?_some h
  · rintro rfl
    cases f <;> decide +kernel

end Flow

namespace Opcode

/-- The opcode of conditionals that an opcode is. -/
def flow? : Opcode → Option Flow
  | flow f => some f
  | operation _ => none

/-- The number of items that an opcode takes off the main stack. -/
def operands : Opcode → Nat
  | flow .onTrue => 1
  | flow .onFalse => 1
  | flow _ => 0
  | operation (.onTop r) => r.rule.arity
  | operation .toAlt => 1
  | operation _ => 0

theorem flow?_eq_some_iff {o : Opcode} {f : Flow} : o.flow? = some f ↔ o = flow f := by
  cases o <;> simp [flow?]

end Opcode

namespace Dispatch

/-! ### Looking a name up -/

/-- The entry that runs under a name, or why none does. -/
def resolve (name : Text) : Except Failure DispatchEntry :=
  if (Catalog.find? name).any (!·.enabled) then .error (.disabled name)
  else
    match find? name with
    | some d => .ok d
    | none => .error (.unknown name)

theorem name_of_find? {name : Text} {d : DispatchEntry} (h : find? name = some d) :
    d ∈ table ∧ d.name = name :=
  ⟨List.mem_of_find?_eq_some h, by simpa using List.find?_some h⟩

/-- What the two tables say of an entry: it is the only one of its name, the catalog enables it, and
its fields fit together. -/
structure Consistent (d : DispatchEntry) : Prop where
  find?_name : find? d.name = some d
  isEnabled_name : Catalog.isEnabled d.name = true
  upper_name : d.name.upper = d.name
  minItems_eq : d.minItems = d.opcode.operands
  flow?_opcode : d.opcode.flow? = Flow.ofName? d.name
  name_of_alwaysRuns : d.alwaysRuns = true → d.name = "OP_RETURN"
  opcode_of_return : d.name = "OP_RETURN" → d.opcode = .operation .abandon
  name_of_depth : d.opcode = .operation .depth → d.name = "OP_DEPTH"

instance (d : DispatchEntry) : Decidable (Consistent d) :=
  decidable_of_iff
    (find? d.name = some d ∧ Catalog.isEnabled d.name = true ∧ d.name.upper = d.name ∧
      d.minItems = d.opcode.operands ∧ d.opcode.flow? = Flow.ofName? d.name ∧
      (d.alwaysRuns = true → d.name = "OP_RETURN") ∧
      (d.name = "OP_RETURN" → d.opcode = .operation .abandon) ∧
      (d.opcode = .operation .depth → d.name = "OP_DEPTH"))
    ⟨fun ⟨h₁, h₂, h₃, h₄, h₅, h₆, h₇, h₈⟩ => ⟨h₁, h₂, h₃, h₄, h₅, h₆, h₇, h₈⟩,
      fun ⟨h₁, h₂, h₃, h₄, h₅, h₆, h₇, h₈⟩ => ⟨h₁, h₂, h₃, h₄, h₅, h₆, h₇, h₈⟩⟩

/-- **Every entry of the dispatch table is consistent.** -/
theorem consistent_of_mem : ∀ d ∈ table, Consistent d := by
  decide +kernel

theorem find?_of_enabled :
    ∀ e ∈ Catalog.entries, e.enabled = true → (find? e.name).isSome = true := by
  decide +kernel

theorem resolve_name {d : DispatchEntry} (h : d ∈ table) : resolve d.name = .ok d := by
  obtain ⟨hfound, henabled, -⟩ := consistent_of_mem d h
  have hgate : (Catalog.find? d.name).any (!·.enabled) = false := by
    rw [Catalog.isEnabled] at henabled
    cases hfind : Catalog.find? d.name with
    | none => rfl
    | some e =>
        rw [hfind] at henabled
        simpa using henabled
  rw [resolve, hgate, hfound]
  rfl

/-- A name resolves to exactly the entry that bears it. -/
theorem resolve_eq_ok_iff {name : Text} {d : DispatchEntry} :
    resolve name = .ok d ↔ d ∈ table ∧ d.name = name := by
  constructor
  · intro h
    rw [resolve] at h
    split at h
    · simp at h
    · split at h
      · next hfind =>
        cases h
        exact name_of_find? hfind
      · simp at h
  · rintro ⟨hmem, rfl⟩
    exact resolve_name hmem

theorem eq_of_name_eq {d d' : DispatchEntry} (h : d ∈ table) (h' : d' ∈ table)
    (hname : d.name = d'.name) : d = d' := by
  have hresolve := resolve_name h
  rw [hname, resolve_name h'] at hresolve
  exact (Except.ok.inj hresolve).symm

/-- **The two tables list the same names**: the capitals of a text resolve exactly if the catalog
enables the text. -/
theorem exists_resolve_upper_iff {t : Text} :
    (∃ d, resolve t.upper = .ok d) ↔ Catalog.isEnabled t = true := by
  constructor
  · rintro ⟨d, hd⟩
    obtain ⟨hmem, hname⟩ := resolve_eq_ok_iff.1 hd
    obtain ⟨-, henabled, hupper, -⟩ := consistent_of_mem d hmem
    -- the catalog takes the capitals once more, which changes nothing
    rw [Catalog.isEnabled, Catalog.find?, hupper, hname] at henabled
    exact henabled
  · intro h
    obtain ⟨e, he, hen⟩ := (Option.any_eq_true _ _).1 h
    have hbears : e.name = t.upper := by simpa using List.find?_some he
    obtain ⟨d, hd⟩ :=
      Option.isSome_iff_exists.1 (find?_of_enabled e (List.mem_of_find?_eq_some he) hen)
    obtain ⟨hmem, hname⟩ := name_of_find? hd
    exact ⟨d, resolve_eq_ok_iff.2 ⟨hmem, hname.trans hbears⟩⟩

/-! ### What the entries say of their opcodes -/

theorem exists_mem_flow (f : Flow) : ∃ d ∈ table, d.name = f.name := by
  cases f <;> decide +kernel

/-- The name of an opcode of conditionals resolves to that opcode. -/
theorem resolve_flow (f : Flow) :
    ∃ d, resolve f.name = .ok d ∧ d.name = f.name ∧ d.opcode = .flow f := by
  obtain ⟨d, hmem, hname⟩ := exists_mem_flow f
  refine ⟨d, resolve_eq_ok_iff.2 ⟨hmem, hname⟩, hname, ?_⟩
  exact Opcode.flow?_eq_some_iff.1
    ((consistent_of_mem d hmem).flow?_opcode.trans (Flow.ofName?_eq_some_iff.2 hname.symm))

/-- Another name that resolves stands for an operation. -/
theorem opcode_of_resolve {name : Text} {d : DispatchEntry} (h : resolve name = .ok d)
    (hflow : Flow.ofName? name = none) : ∃ o, d.opcode = .operation o := by
  obtain ⟨hmem, rfl⟩ := resolve_eq_ok_iff.1 h
  have hd := (consistent_of_mem d hmem).flow?_opcode.trans hflow
  cases ho : d.opcode with
  | flow f => simp [ho, Opcode.flow?] at hd
  | operation o => exact ⟨o, rfl⟩

end Dispatch

end ScriptTutor
