/-
**What a call does to the registry.**

A call for a logger, or for a record, is about one name.  It changes nothing about any other logger,
and only a record adds to what has been written.  Which handlers write a record depends on the names
above its own: where none of them is in use, they are the handlers of its own logger and those of
the root.

Main definitions:

* `ScriptTutor.Logging.Registry.content` — what has been written to a destination;
* `ScriptTutor.Logging.Registry.Sets` — a registry differs from another in one logger.

Main results:

* `ScriptTutor.Logging.Registry.of_mem_namesAbove` — a name above another is in use, and it stands
  before a dot of the other;
* `ScriptTutor.Logging.Registry.obtain_cases` — **everything that a call for a logger can do**;
* `ScriptTutor.Logging.Registry.content_log` — **what a record adds to a destination**.
-/

import Mathlib.Data.List.Infix
import ScriptTutor.Logging.Registry

set_option relaxedAutoImplicit false
set_option autoImplicit false

namespace ScriptTutor.Logging

/-! ### Names before a dot -/

/-- A name stands before a dot of another one. -/
def IsAbove (p name : Text) : Prop := p ++ [('.' : CodePoint)] <+: name

instance (p name : Text) : Decidable (IsAbove p name) :=
  inferInstanceAs (Decidable (p ++ [('.' : CodePoint)] <+: name))

theorem IsAbove.append {p name : Text} (h : IsAbove p name) (t : Text) : IsAbove p (name ++ t) :=
  h.trans (List.prefix_append ..)

theorem not_isAbove_self (name : Text) : ¬ IsAbove name name := by
  intro h
  have hlength := h.length_le
  rw [List.length_append, List.length_singleton] at hlength
  omega

/-! ### Lines of messages -/

/-- The line that a destination gets for a message, if there is a record of it. -/
def Environment.lineOf? (env : Environment) (format : Text) (record : Except Fault Record)
    (d : Destination) : Option Text :=
  record.toOption.bind fun record => env.line? format record d

namespace Registry

/-- What has been written to a destination; to a file that is not there, nothing. -/
def content (r : Registry) : Destination → Text
  | .console => r.console
  | .file path => (r.files.lookup path).getD []

/-! ### Loggers in their places -/

theorem logger_congr {r r' : Registry} (h : r'.loggers = r.loggers) (name : Text) :
    r'.logger name = r.logger name := by
  rw [logger, logger, h]

theorem knows_congr {r r' : Registry} (h : r'.loggers = r.loggers) (name : Text) :
    r'.knows name = r.knows name := by
  rw [knows, knows, h]

theorem logger_put (l : Logger) (r : Registry) (name : Text) :
    (r.put l).logger name = if name = l.name then l else r.logger name := by
  by_cases h : name = l.name
  · rw [if_pos h, h, logger, put, List.find?_cons_of_pos (by simp), Option.getD_some]
  · have hother : (fun k : Logger => decide ((k.name != l.name) = true ∧ (k.name == name) = true)) =
        (·.name == name) := by
      funext k
      by_cases hk : k.name = name
      · simp [hk, h]
      · simp [hk]
    rw [if_neg h, logger, put, List.find?_cons_of_neg (by simpa using Ne.symm h), List.find?_filter,
      hother, logger]

theorem knows_iff {r : Registry} {name : Text} :
    r.knows name = true ↔ ∃ l ∈ r.loggers, l.name = name := by
  simp [knows]

theorem logger_of_not_knows {r : Registry} {name : Text} (h : ¬ r.knows name = true) :
    r.logger name = ⟨name, 0, []⟩ := by
  have hnone : r.loggers.find? (·.name == name) = none := by
    rw [List.find?_eq_none]
    intro l hl hname
    exact h (knows_iff.2 ⟨l, hl, by simpa using hname⟩)
  rw [logger, hnone, Option.getD_none]

/-- A registry has the loggers of another one with `l` as the logger of `name`, and no names are in
use but those that were and this one. -/
structure Sets (name : Text) (l : Logger) (r r' : Registry) : Prop where
  logger : ∀ n, r'.logger n = if n = name then l else r.logger n
  knows : ∀ n, r'.knows n = true → r.knows n = true ∨ n = name

theorem sets_put (l : Logger) (r : Registry) : Sets l.name l r (r.put l) where
  logger := logger_put l r
  knows := by
    intro n hn
    obtain ⟨k, hk, rfl⟩ := knows_iff.1 hn
    obtain rfl | hk := List.mem_cons.1 hk
    · exact .inr rfl
    · exact .inl (knows_iff.2 ⟨k, (List.mem_filter.1 hk).1, rfl⟩)

theorem sets_self (name : Text) (r : Registry) : Sets name (r.logger name) r r where
  logger := by
    intro n
    split
    · next h => rw [h]
    · rfl
  knows := fun _ hn => .inl hn

/-- A name that is used for the first time gets the logger that it had without being used. -/
theorem sets_ensure (name : Text) (r : Registry) : Sets name (r.logger name) r (r.ensure name) := by
  rw [ensure]
  split
  · exact sets_self name r
  · next h =>
      rw [logger_of_not_knows h]
      exact sets_put ⟨name, 0, []⟩ r

theorem logger_ensure (name : Text) (r : Registry) (n : Text) :
    (r.ensure name).logger n = r.logger n := by
  rw [(sets_ensure name r).logger, ← (sets_self name r).logger]

theorem ensure_of_knows {r : Registry} {name : Text} (h : r.knows name = true) :
    r.ensure name = r := if_pos h

theorem Sets.trans {name : Text} {k l : Logger} {r r' r'' : Registry} (hk : Sets name k r r')
    (hl : Sets name l r' r'') : Sets name l r r'' where
  logger := by
    intro n
    rw [hl.logger, hk.logger]
    split <;> rfl
  knows := by
    intro n hn
    obtain hn | hn := hl.knows n hn
    · exact hk.knows n hn
    · exact .inr hn

theorem Sets.congr {name : Text} {l : Logger} {r r' r'' : Registry} (h : Sets name l r r')
    (hloggers : r''.loggers = r'.loggers) : Sets name l r r'' where
  logger := fun n => (logger_congr hloggers n).trans (h.logger n)
  knows := fun n hn => h.knows n (knows_congr hloggers n ▸ hn)

/-! ### Writing -/

theorem lookup_addToFile (path text : Text) (files : List (Text × Text)) (p : Text) :
    ((addToFile path text files).lookup p).getD [] =
      (files.lookup p).getD [] ++ if p = path then text else [] := by
  induction files with
  | nil =>
      by_cases h : p = path
      · simp [addToFile, h]
      · simp [addToFile, h, List.lookup_cons, beq_eq_false_iff_ne.2 h]
  | cons f files ih =>
      obtain ⟨q, t⟩ := f
      by_cases hq : q = path
      · subst hq
        by_cases h : p = q
        · simp [addToFile, h]
        · simp [addToFile, h, List.lookup_cons, beq_eq_false_iff_ne.2 h]
      · rw [addToFile, if_neg hq, List.lookup_cons, List.lookup_cons]
        split
        · next h =>
            have hp : p ≠ path := by
              rw [eq_of_beq h]
              exact hq
            rw [if_neg hp, List.append_nil]
        · exact ih

/-- A text is added to what was written to the same destination. -/
theorem content_write (text : Text) (d : Destination) (r : Registry) (e : Destination) :
    (r.write text d).content e = r.content e ++ if e = d then text else [] := by
  cases d with
  | console =>
      cases e with
      | console => simp [write, content]
      | file p => simp [write, content]
  | file path =>
      cases e with
      | console => simp [write, content]
      | file p =>
          simp only [write, content, Destination.file.injEq]
          exact lookup_addToFile path text r.files p

theorem content_write_nil (d : Destination) (r : Registry) (e : Destination) :
    (r.write [] d).content e = r.content e := by
  rw [content_write, ite_self, List.append_nil]

theorem loggers_write (text : Text) (d : Destination) (r : Registry) :
    (r.write text d).loggers = r.loggers := by
  cases d <;> rfl

theorem content_put (l : Logger) (r : Registry) (d : Destination) :
    (r.put l).content d = r.content d := by
  cases d <;> rfl

theorem content_ensure (name : Text) (r : Registry) (d : Destination) :
    (r.ensure name).content d = r.content d := by
  rw [ensure]
  split
  · rfl
  · exact content_put ..

variable (env : Environment) (record : Record)

theorem content_handle (r : Registry) (h : Handler) (d : Destination) :
    (r.handle env record h).content d =
      r.content d ++ if h.destination = d then (env.line? h.format record d).getD [] else [] := by
  rw [handle]
  by_cases hd : h.destination = d
  · subst hd
    cases env.line? h.format record h.destination with
    | none => simp
    | some line => simp [content_write]
  · split
    · simp [content_write, hd, Ne.symm hd]
    · simp [hd]

/-- A record adds to a destination a line for each handler that writes there, if the handler has
one. -/
theorem content_emit (r : Registry) (d : Destination) :
    (r.emit env record).content d =
      r.content d ++ ((r.handlers record.logger).filter (·.destination = d)).flatMap fun h =>
        (env.line? h.format record d).getD [] := by
  rw [emit]
  generalize r.handlers record.logger = hs
  induction hs generalizing r with
  | nil => simp
  | cons h hs ih =>
      rw [List.foldl_cons, ih, content_handle, List.filter_cons]
      by_cases hd : h.destination = d
      · simp [hd]
      · simp [hd]

theorem loggers_emit (r : Registry) : (r.emit env record).loggers = r.loggers := by
  rw [emit]
  generalize r.handlers record.logger = hs
  induction hs generalizing r with
  | nil => rfl
  | cons h hs ih =>
      rw [List.foldl_cons, ih, handle]
      split
      · exact loggers_write ..
      · rfl

/-! ### Names above a name -/

/-- A name above another is in use, it is not the root, and it stands before a dot of the other
one. -/
theorem of_mem_namesAbove {r : Registry} {p reversed : Text} (h : p ∈ r.namesAbove reversed) :
    r.knows p = true ∧ p ≠ rootName ∧ IsAbove p reversed.reverse := by
  induction reversed using namesAbove.induct r with
  | case1 d t hknown ih =>
      have hdot : IsAbove (d :: t).reverse (('.' : CodePoint) :: d :: t).reverse := by
        rw [List.reverse_cons (a := ('.' : CodePoint))]
        exact List.prefix_rfl
      rw [namesAbove, if_pos rfl, if_pos hknown] at h
      obtain rfl | h := List.mem_cons.1 h
      · obtain ⟨hp, hroot⟩ := Bool.and_eq_true_iff.1 hknown
        exact ⟨hp, bne_iff_ne.1 hroot, hdot⟩
      · obtain ⟨hp, hroot, habove⟩ := ih h
        exact ⟨hp, hroot, by simpa using habove.append ['.']⟩
  | case2 d t hunknown ih =>
      -- the character before the dot was passed over together with the dot
      rw [namesAbove, if_pos rfl, if_neg hunknown] at h
      obtain ⟨hp, hroot, habove⟩ := ih h
      exact ⟨hp, hroot, by simpa using habove.append [d, '.']⟩
  | case3 c d t hdot ih =>
      rw [namesAbove, if_neg hdot] at h
      obtain ⟨hp, hroot, habove⟩ := ih h
      exact ⟨hp, hroot, by simpa using habove.append [c]⟩
  | case4 t hshort =>
      rw [namesAbove] at h
      · cases h
      · exact hshort

/-- A name is apart in a registry if it is not the root and no name above it is in use. -/
structure IsApart (name : Text) (r : Registry) : Prop where
  ne_nil : name ≠ []
  ne_root : name ≠ rootName
  noneAbove : ∀ p, r.knows p = true → p ≠ rootName → ¬ IsAbove p name

theorem IsApart.properName {name : Text} {r : Registry} (h : r.IsApart name) :
    properName name = name :=
  if_neg (by simpa using h.ne_nil)

theorem IsApart.lineage {name : Text} {r : Registry} (h : r.IsApart name) :
    r.lineage name = [name, rootName] := by
  have hnone : r.namesAbove name.reverse = [] := by
    rw [List.eq_nil_iff_forall_not_mem]
    intro p hp
    obtain ⟨hknown, hroot, habove⟩ := of_mem_namesAbove hp
    rw [List.reverse_reverse] at habove
    exact h.noneAbove p hknown hroot habove
  rw [Registry.lineage, if_neg h.ne_root, hnone]
  rfl

theorem IsApart.sets {name : Text} {l : Logger} {r r' : Registry} (h : r.IsApart name)
    (hset : Sets name l r r') : r'.IsApart name where
  ne_nil := h.ne_nil
  ne_root := h.ne_root
  noneAbove := by
    intro p hp hroot
    obtain hp | rfl := hset.knows p hp
    · exact h.noneAbove p hp hroot
    · exact not_isAbove_self p

/-! ### Calls -/

/-- **Everything that a call for a logger can do.**  One that has handlers is returned, and nothing
changes.  Otherwise nothing is written, and the level may be unknown, so that the logger is left as
it is; or the format is refused, so that it is left with a level and no handlers; or it is set
up. -/
theorem obtain_cases {name : Text} (hname : name ≠ []) (level : Text) (file format : Option Text)
    (r : Registry) :
    ((r.logger name).handlers ≠ [] ∧
      r.obtain name (.item (.text level)) file format = (.ok (r.logger name), r)) ∨
    (r.logger name).handlers = [] ∧
      ∃ answer l r', r.obtain name (.item (.text level)) file format = (answer, r') ∧
        Sets name l r r' ∧ (∀ d, r'.content d = r.content d) ∧
        ((∃ e, levelNamed level = .error e ∧ answer = .error e ∧ l = r.logger name) ∨
          (∃ n, levelNamed level = .ok n ∧ Format.isValid (formatText format) = false ∧
            answer = .error (.invalidFormat (formatText format)) ∧ l = ⟨name, n, []⟩) ∨
          ∃ n, levelNamed level = .ok n ∧ Format.isValid (formatText format) = true ∧
            answer = .ok l ∧ l = ⟨name, n, handlersFor file (formatText format)⟩) := by
  have hproper : properName name = name := if_neg (by simpa using hname)
  have hset : ∀ n handlers,
      Sets name ⟨name, n, handlers⟩ r ((r.ensure name).put ⟨name, n, handlers⟩) :=
    fun n handlers => (sets_ensure name r).trans (sets_put ⟨name, n, handlers⟩ _)
  have hcontent : ∀ l d, ((r.ensure name).put l).content d = r.content d :=
    fun l d => (content_put ..).trans (content_ensure ..)
  rw [Registry.obtain, hproper, logger_ensure]
  by_cases hbare : (r.logger name).handlers = []
  · right
    refine ⟨hbare, ?_⟩
    rw [if_pos (by simpa using hbare), configure]
    dsimp only [levelOf]
    cases hlevel : levelNamed level with
    | error e =>
        exact ⟨_, _, _, rfl, sets_ensure name r, content_ensure name r, .inl ⟨e, rfl, rfl, rfl⟩⟩
    | ok n =>
        cases hformat : Format.isValid (formatText format) with
        | false =>
            exact ⟨_, _, _, rfl, hset n [], hcontent _, .inr (.inl ⟨n, rfl, rfl, rfl, rfl⟩)⟩
        | true =>
            cases file with
            | none =>
                exact ⟨_, _, _, rfl, hset n _, hcontent _, .inr (.inr ⟨n, rfl, rfl, rfl, rfl⟩)⟩
            | some path =>
                exact ⟨_, _, _, rfl, (hset n _).congr (loggers_write ..),
                  fun d => (content_write_nil ..).trans (hcontent _ d),
                  .inr (.inr ⟨n, rfl, rfl, rfl, rfl⟩)⟩
  · left
    -- a logger with handlers is there, so that not even its name is new
    have hknown : r.knows name = true := by
      by_contra hunknown
      exact hbare (by rw [logger_of_not_knows hunknown])
    rw [if_neg (by simpa using hbare), ensure_of_knows hknown]
    exact ⟨hbare, rfl⟩

theorem loggers_log {name : Text} (hname : name ≠ []) (r : Registry) (level : Int)
    (message : Text) (surroundings : List (Text × Attribute)) :
    (r.log env name level message surroundings).2.loggers = (r.ensure name).loggers := by
  have hproper : properName name = name := if_neg (by simpa using hname)
  rw [log, hproper]
  split
  · cases Record.make name level message surroundings with
    | ok record => exact loggers_emit ..
    | error e => rfl
  · rfl

section Apart

variable {name : Text} {r : Registry} (h : r.IsApart name)
include h

theorem IsApart.handlers (hroot : (r.logger rootName).handlers = []) :
    (r.ensure name).handlers name = (r.logger name).handlers := by
  rw [Registry.handlers, (h.sets (sets_ensure name r)).lineage]
  simp [logger_ensure, hroot]

theorem IsApart.effectiveLevel (hlevel : 0 < (r.logger name).level) :
    (r.ensure name).effectiveLevel name = (r.logger name).level := by
  rw [Registry.effectiveLevel, (h.sets (sets_ensure name r)).lineage, List.map_cons, logger_ensure,
    List.find?_cons_of_pos (by simpa using Ne.symm (Int.ne_of_lt hlevel)), Option.getD_some]

/-- A message is answered by an error if its level has no name and it is not below that of the
logger. -/
theorem log_fst (hlevel : 0 < (r.logger name).level) (level : Int) (message : Text)
    (surroundings : List (Text × Attribute)) :
    (r.log env name level message surroundings).1 =
      if (r.logger name).level ≤ level then
        (Record.make name level message surroundings).map fun _ => ()
      else .ok () := by
  rw [log, h.properName, h.effectiveLevel hlevel]
  by_cases hle : (r.logger name).level ≤ level
  · rw [if_pos ⟨by omega, hle⟩, if_pos hle]
    cases Record.make name level message surroundings <;> rfl
  · rw [if_neg (fun hboth => hle hboth.2), if_neg hle]

/-- **What a message adds to a destination**: a line for each handler of its logger that writes
there and has one, if the level is not below that of the logger. -/
theorem content_log (hroot : (r.logger rootName).handlers = [])
    (hlevel : (r.logger name).handlers ≠ [] → 0 < (r.logger name).level)
    (level : Int) (message : Text) (surroundings : List (Text × Attribute)) (d : Destination) :
    (r.log env name level message surroundings).2.content d =
      r.content d ++ if (r.logger name).level ≤ level then
        ((r.logger name).handlers.filter (·.destination = d)).flatMap fun h =>
          (env.lineOf? h.format (Record.make name level message surroundings) d).getD []
      else [] := by
  rw [log, h.properName]
  by_cases hbare : (r.logger name).handlers = []
  · -- without handlers it does not matter which level decides
    rw [hbare, List.filter_nil, List.flatMap_nil, ite_self, List.append_nil]
    split
    · cases hrecord : Record.make name level message surroundings with
      | ok record =>
          rw [content_emit, Record.logger_of_make hrecord, h.handlers hroot, hbare, content_ensure]
          exact List.append_nil _
      | error e => exact content_ensure name r d
    · exact content_ensure name r d
  · have hpos := hlevel hbare
    rw [h.effectiveLevel hpos]
    by_cases hle : (r.logger name).level ≤ level
    · rw [if_pos ⟨by omega, hle⟩, if_pos hle]
      cases hrecord : Record.make name level message surroundings with
      | ok record =>
          rw [content_emit, Record.logger_of_make hrecord, h.handlers hroot, content_ensure]
          rfl
      | error e => simp [Environment.lineOf?, Except.toOption, content_ensure]
    · rw [if_neg (fun hboth => hle hboth.2), if_neg hle, List.append_nil, content_ensure]

end Apart

end Registry

end ScriptTutor.Logging
