/-
**Loggers that are set up once.**

Many callers ask for loggers and log messages, in any order.  The first call for a name that names a
level and gives no format without a placeholder sets its logger up; whatever is asked for later, the
logger stays as it is, and so a message is written once to the console and once to the file, however
often the logger was asked for.  All of it can be read off the calls, without the registry.

Main definitions:

* `ScriptTutor.Logging.Call`, `ScriptTutor.Logging.after` — calls, and the registry after a history
  of them;
* `ScriptTutor.Logging.firstSetup?` — how a name is set up, read off the calls;
* `ScriptTutor.Logging.written` — the lines of a destination, read off the calls;
* `ScriptTutor.Logging.Follows` — a registry is what the calls say;
* `ScriptTutor.Logging.Answers`, `ScriptTutor.Logging.Logs` — what a call gives after other calls.

Main results:

* `ScriptTutor.Logging.Follows.leaves` — **every call keeps the registry as the calls say**;
* `ScriptTutor.Logging.configured_once` — what holds after every history.
-/

import ScriptTutor.Proofs.Logging.Format
import ScriptTutor.Proofs.Logging.Registry

set_option relaxedAutoImplicit false
set_option autoImplicit false

namespace ScriptTutor.Logging

open Registry

/-! ### Calls -/

inductive Call where
  | obtain (name level : Text) (file format : Option Text)
  | log (name : Text) (level : Int) (message : Text) (surroundings : List (Text × Attribute))

def Call.name : Call → Text
  | obtain name .. => name
  | log name .. => name

/-- The registry that a call leaves behind, whatever its outcome. -/
def Call.leaves (env : Environment) : Call → Registry → Registry
  | obtain name level file format, r => (r.obtain name (.item (.text level)) file format).2
  | log name level message surroundings, r => (r.log env name level message surroundings).2

/-- The registry after a history of calls. -/
def after (env : Environment) (calls : List Call) : Registry :=
  calls.foldl (fun r c => c.leaves env r) start

theorem after_concat (env : Environment) (calls : List Call) (c : Call) :
    after env (calls ++ [c]) = c.leaves env (after env calls) := by
  rw [after, List.foldl_append]
  rfl

/-! ### Setups -/

structure Setup where
  level : Int
  file : Option Text
  format : Text
  deriving DecidableEq

namespace Setup

/-- The logger of a name that is set up: it has one handler for the console, and one for the file
if there is one. -/
def logger (s : Setup) (name : Text) : Logger := ⟨name, s.level, handlersFor s.file s.format⟩

def WritesTo (s : Setup) : Destination → Prop
  | .console => True
  | .file path => s.file = some path

instance (s : Setup) : DecidablePred s.WritesTo
  | .console => inferInstanceAs (Decidable True)
  | .file path => inferInstanceAs (Decidable (s.file = some path))

theorem handlers_ne_nil (s : Setup) (name : Text) : (s.logger name).handlers ≠ [] :=
  List.cons_ne_nil _ _

theorem lines_handlers (s : Setup) (name : Text) (d : Destination) (line : Text → Text) :
    ((s.logger name).handlers.filter (·.destination = d)).flatMap (fun h => line h.format) =
      if s.WritesTo d then line s.format else [] := by
  obtain ⟨level, file, format⟩ := s
  cases d with
  | console => cases file <;> simp [logger, handlersFor, WritesTo]
  | file path =>
      cases file with
      | none => simp [logger, handlersFor, WritesTo]
      | some p =>
          by_cases hp : p = path
          · simp [logger, handlersFor, WritesTo, hp]
          · simp [logger, handlersFor, WritesTo, hp]

/-- A logger is set up in this way, or has no handlers if there is none. -/
def Fits (name : Text) (l : Logger) : Option Setup → Prop
  | some s => l = s.logger name
  | none => l.handlers = []

end Setup

/-- How a call sets its name up, if it can: it is a call for a logger, it names a level, and its
format is accepted. -/
def Call.setup? : Call → Option Setup
  | obtain _ level file format =>
    match levelNamed level with
    | .ok n =>
      if Format.isValid (formatText format) then some ⟨n, file, formatText format⟩ else none
    | .error _ => none
  | log .. => none

theorem setup?_obtain_eq_some_iff {name level : Text} {file format : Option Text} {s : Setup} :
    (Call.obtain name level file format).setup? = some s ↔
      levelNamed level = .ok s.level ∧ Format.isValid (formatText format) = true ∧
        s.file = file ∧ s.format = formatText format := by
  obtain ⟨n, p, f⟩ := s
  rw [Call.setup?]
  cases levelNamed level with
  | error e => simp
  | ok k =>
      cases Format.isValid (formatText format) with
      | false => simp
      | true => simp [eq_comm]

/-- How a name is set up after some calls: as the first call says that is about it and can. -/
def firstSetup? (calls : List Call) (name : Text) : Option Setup :=
  calls.findSome? fun c => if c.name = name then c.setup? else none

theorem firstSetup?_concat_self (calls : List Call) (c : Call) :
    firstSetup? (calls ++ [c]) c.name = (firstSetup? calls c.name).or c.setup? := by
  simp [firstSetup?, List.findSome?_append]

theorem firstSetup?_concat_of_ne {c : Call} {name : Text} (h : name ≠ c.name)
    (calls : List Call) : firstSetup? (calls ++ [c]) name = firstSetup? calls name := by
  simp [firstSetup?, List.findSome?_append, Ne.symm h]

theorem firstSetup?_eq_none {calls : List Call} {name : Text} (h : ∀ c ∈ calls, c.name ≠ name) :
    firstSetup? calls name = none := by
  rw [firstSetup?, List.findSome?_eq_none_iff]
  intro c hc
  rw [if_neg (h c hc)]

/-- The line that a call adds to a destination, if it adds one, when some calls have been made
before. -/
def Call.line? (env : Environment) (d : Destination) (before : List Call) : Call → Option Text
  | obtain .. => none
  | log name level message surroundings =>
    (firstSetup? before name).bind fun s =>
      if s.level ≤ level ∧ s.WritesTo d then
        env.lineOf? s.format (Record.make name level message surroundings) d
      else none

/-- The lines that calls write to a destination, when others have been made before. -/
def written (env : Environment) (d : Destination) (before : List Call) : List Call → List Text
  | [] => []
  | c :: later => (c.line? env d before).toList ++ written env d (before ++ [c]) later

variable {env : Environment}

theorem written_concat (d : Destination) (before calls : List Call) (c : Call) :
    written env d before (calls ++ [c]) =
      written env d before calls ++ (c.line? env d (before ++ calls)).toList := by
  induction calls generalizing before with
  | nil => simp [written]
  | cons b calls ih =>
      rw [List.cons_append, written, written, ih, List.append_assoc, List.append_assoc,
        List.singleton_append]

/-! ### Histories that this is about -/

/-- Names that are no levels, in capitals: the first one stands for the lack of a level, and the
others for something else. -/
def reservedNames : List Text := ["NOTSET", "BASIC_FORMAT", "_STYLES"]

/-- A call is plain if it gives no reserved name as a level. -/
def Call.IsPlain : Call → Prop
  | obtain _ level _ _ => level.upper ∉ reservedNames
  | log .. => True

instance : DecidablePred Call.IsPlain
  | .obtain _ level _ _ => inferInstanceAs (Decidable (level.upper ∉ reservedNames))
  | .log .. => inferInstanceAs (Decidable True)

/-- Plain calls about names that are neither empty nor the root, none of them above another. -/
structure IsProper (calls : List Call) : Prop where
  plain : ∀ c ∈ calls, c.IsPlain
  ne_nil : ∀ c ∈ calls, c.name ≠ []
  ne_root : ∀ c ∈ calls, c.name ≠ rootName
  apart : ∀ b ∈ calls, ∀ c ∈ calls, ¬ IsAbove b.name c.name

theorem IsProper.mono {calls later : List Call} (h : IsProper later) (hsub : calls ⊆ later) :
    IsProper calls where
  plain := fun c hc => h.plain c (hsub hc)
  ne_nil := fun c hc => h.ne_nil c (hsub hc)
  ne_root := fun c hc => h.ne_root c (hsub hc)
  apart := fun b hb c hc => h.apart b (hsub hb) c (hsub hc)

theorem pos_of_levelNamed {level : Text} {n : Int} (h : levelNamed level = .ok n)
    (hlevel : level.upper ∉ reservedNames) : 0 < n := by
  have hpos : ∀ p ∈ levelNames, p.1 ∉ reservedNames → 0 < p.2 := by decide +kernel
  rw [levelNamed] at h
  split at h
  · next k hk =>
      obtain ⟨before, later, hnames, -⟩ := List.lookup_eq_some_iff.1 hk
      obtain rfl := Except.ok.inj h
      exact hpos (level.upper, k) (by rw [hnames]; simp) hlevel
  · cases h

/-! ### What the calls say -/

/-- A registry is what the calls say: a name that some call could set up has the logger of the first
one, and the others have no handlers; the names in use are those of the calls, beside the root; and
what has been written is the lines of the calls. -/
structure Follows (env : Environment) (calls : List Call) (r : Registry) : Prop where
  fits : ∀ name, Setup.Fits name (r.logger name) (firstSetup? calls name)
  known : ∀ name, r.knows name = true → name = rootName ∨ ∃ c ∈ calls, c.name = name
  content : ∀ d, r.content d = (written env d [] calls).flatten

theorem follows_start : Follows env [] start where
  fits := by
    intro name
    change (start.logger name).handlers = []
    by_cases hname : name = rootName
    · simp [start, logger, hname]
    · simp [start, logger, Ne.symm hname]
  known := by
    intro name hname
    obtain ⟨l, hl, rfl⟩ := knows_iff.1 hname
    obtain rfl := List.mem_singleton.1 hl
    exact .inl rfl
  content := by
    intro d
    cases d <;> rfl

theorem IsProper.pos {calls : List Call} (h : IsProper calls) {name : Text} {s : Setup}
    (hs : firstSetup? calls name = some s) : 0 < s.level := by
  obtain ⟨c, hc, hsetup⟩ := List.exists_of_findSome?_eq_some hs
  split at hsetup
  · cases c with
    | log name level message surroundings => cases hsetup
    | obtain name level file format =>
        exact pos_of_levelNamed (setup?_obtain_eq_some_iff.1 hsetup).1 (h.plain _ hc)
  · cases hsetup

namespace Follows

variable {calls : List Call} {r r' : Registry}

theorem configured (h : Follows env calls r) {name : Text} {s : Setup}
    (hs : firstSetup? calls name = some s) : r.logger name = s.logger name := by
  have hfits := h.fits name
  rwa [hs] at hfits

theorem bare (h : Follows env calls r) {name : Text} (hs : firstSetup? calls name = none) :
    (r.logger name).handlers = [] := by
  have hfits := h.fits name
  rwa [hs] at hfits

theorem exists_setup (h : Follows env calls r) {name : Text}
    (hset : (r.logger name).handlers ≠ []) : ∃ s, firstSetup? calls name = some s :=
  Option.ne_none_iff_exists'.1 fun hnone => hset (h.bare hnone)

/-- A registry goes on to be what the calls say if one more call changes at most the logger of its
own name, to what the calls say, and writes its line. -/
theorem concat (h : Follows env calls r) {c : Call} {l : Logger} (hset : Sets c.name l r r')
    (hfits : Setup.Fits c.name l ((firstSetup? calls c.name).or c.setup?))
    (hcontent : ∀ d, r'.content d = r.content d ++ (c.line? env d calls).getD []) :
    Follows env (calls ++ [c]) r' where
  fits := by
    intro name
    rw [hset.logger]
    split
    · next hname =>
        rw [hname, firstSetup?_concat_self]
        exact hfits
    · next hname =>
        rw [firstSetup?_concat_of_ne hname]
        exact h.fits name
  known := by
    intro name hname
    obtain hname | rfl := hset.knows name hname
    · obtain hroot | ⟨b, hb, hbname⟩ := h.known name hname
      · exact .inl hroot
      · exact .inr ⟨b, List.mem_append_left _ hb, hbname⟩
    · exact .inr ⟨c, by simp, rfl⟩
  content := by
    intro d
    rw [hcontent, h.content, written_concat, List.flatten_append, List.nil_append]
    cases c.line? env d calls <;> simp

/-- **What a call for a logger does**, from what the calls say.  It returns the logger that is set
up, and changes nothing; or it sets the logger up and returns it; or it fails, and the logger has no
handlers. -/
theorem obtain_cases (h : Follows env calls r) {name : Text} (hname : name ≠ []) (level : Text)
    (file format : Option Text) :
    (∃ s, firstSetup? calls name = some s ∧
      r.obtain name (.item (.text level)) file format = (.ok (s.logger name), r)) ∨
    firstSetup? calls name = none ∧
      ∃ answer l r', r.obtain name (.item (.text level)) file format = (answer, r') ∧
        Sets name l r r' ∧ (∀ d, r'.content d = r.content d) ∧
        Setup.Fits name l (Call.obtain name level file format).setup? ∧
        ((∃ s, (Call.obtain name level file format).setup? = some s ∧
            answer = .ok (s.logger name)) ∨
          (Call.obtain name level file format).setup? = none ∧
            ((∃ e, levelNamed level = .error e ∧ answer = .error e) ∨
              (∃ n, levelNamed level = .ok n) ∧ Format.isValid (formatText format) = false ∧
                answer = .error (.invalidFormat (formatText format)))) := by
  obtain ⟨hset, hresult⟩ | ⟨hbare, answer, l, r', hresult, hset, hcontent, hcases⟩ :=
    Registry.obtain_cases hname level file format r
  · left
    obtain ⟨s, hs⟩ := h.exists_setup hset
    exact ⟨s, hs, h.configured hs ▸ hresult⟩
  · right
    have hnone : firstSetup? calls name = none := by
      cases hs : firstSetup? calls name with
      | none => rfl
      | some s =>
          rw [h.configured hs] at hbare
          exact absurd hbare (s.handlers_ne_nil name)
    refine ⟨hnone, answer, l, r', hresult, hset, hcontent, ?_⟩
    obtain ⟨e, hlevel, hanswer, rfl⟩ | ⟨n, hlevel, hformat, hanswer, rfl⟩ |
      ⟨n, hlevel, hformat, hanswer, rfl⟩ := hcases
    · have hsetup : (Call.obtain name level file format).setup? = none := by
        simp [Call.setup?, hlevel]
      rw [hsetup]
      exact ⟨hbare, .inr ⟨rfl, .inl ⟨e, hlevel, hanswer⟩⟩⟩
    · have hsetup : (Call.obtain name level file format).setup? = none := by
        simp [Call.setup?, hlevel, hformat]
      rw [hsetup]
      exact ⟨rfl, .inr ⟨rfl, .inr ⟨⟨n, hlevel⟩, hformat, hanswer⟩⟩⟩
    · have hsetup : (Call.obtain name level file format).setup? =
          some ⟨n, file, formatText format⟩ := by
        simp [Call.setup?, hlevel, hformat]
      rw [hsetup]
      exact ⟨rfl, .inl ⟨_, rfl, hanswer⟩⟩

theorem obtain (h : Follows env calls r) {name : Text} (hname : name ≠ []) (level : Text)
    (file format : Option Text) :
    Follows env (calls ++ [.obtain name level file format])
      (r.obtain name (.item (.text level)) file format).2 := by
  obtain ⟨s, hs, hresult⟩ | ⟨hnone, answer, l, r', hresult, hset, hcontent, hfits, -⟩ :=
    h.obtain_cases hname level file format
  · rw [hresult]
    refine h.concat (sets_self name r) ?_ fun d => (List.append_nil _).symm
    rw [Call.name, hs, Option.some_or]
    exact h.configured hs
  · rw [hresult]
    refine h.concat hset ?_ fun d => (hcontent d).trans (List.append_nil _).symm
    rw [Call.name, hnone, Option.none_or]
    exact hfits

/-- The name of a call is apart in a registry that is what the calls before say. -/
theorem isApart (h : Follows env calls r) {c : Call} (hproper : IsProper (calls ++ [c])) :
    r.IsApart c.name where
  ne_nil := hproper.ne_nil c (by simp)
  ne_root := hproper.ne_root c (by simp)
  noneAbove := by
    intro p hp hroot
    obtain hp | ⟨b, hb, rfl⟩ := h.known p hp
    · exact absurd hp hroot
    · exact hproper.apart b (List.mem_append_left _ hb) c (by simp)

/-- No call is about the root, so it has no handlers that would write a message once more. -/
theorem root_bare (h : Follows env calls r) (hproper : IsProper calls) :
    (r.logger rootName).handlers = [] :=
  h.bare (firstSetup?_eq_none hproper.ne_root)

/-- **What a message adds to a destination** is the line of the call. -/
theorem content_log (h : Follows env calls r) {name : Text} {level : Int} {message : Text}
    {surroundings : List (Text × Attribute)}
    (hproper : IsProper (calls ++ [.log name level message surroundings])) (d : Destination) :
    (r.log env name level message surroundings).2.content d =
      r.content d ++ ((Call.log name level message surroundings).line? env d calls).getD [] := by
  have hbefore : IsProper calls := hproper.mono (List.subset_append_left ..)
  have hapart : r.IsApart name := h.isApart hproper
  have hpos : (r.logger name).handlers ≠ [] → 0 < (r.logger name).level := by
    intro hset
    obtain ⟨s, hs⟩ := h.exists_setup hset
    rw [h.configured hs]
    exact hbefore.pos hs
  rw [Registry.content_log env hapart (h.root_bare hbefore) hpos, Call.line?]
  cases hs : firstSetup? calls name with
  | none => simp [h.bare hs]
  | some s =>
      rw [h.configured hs, s.lines_handlers name d fun format =>
        (env.lineOf? format (Record.make name level message surroundings) d).getD [],
        Option.bind_some]
      change _ ++ (if s.level ≤ level then _ else _) = _
      by_cases hle : s.level ≤ level <;> by_cases hd : s.WritesTo d <;> simp [hle, hd]

theorem log (h : Follows env calls r) {name : Text} {level : Int} {message : Text}
    {surroundings : List (Text × Attribute)}
    (hproper : IsProper (calls ++ [.log name level message surroundings])) :
    Follows env (calls ++ [.log name level message surroundings])
      (r.log env name level message surroundings).2 := by
  have hapart : r.IsApart name := h.isApart hproper
  have hset : Sets name (r.logger name) r (r.log env name level message surroundings).2 :=
    (sets_ensure name r).congr (loggers_log env hapart.ne_nil r level message surroundings)
  refine h.concat hset ?_ (h.content_log hproper)
  rw [Call.setup?, Option.or_none]
  exact h.fits name

/-- **Every call keeps the registry as the calls say.** -/
theorem leaves (h : Follows env calls r) {c : Call} (hproper : IsProper (calls ++ [c])) :
    Follows env (calls ++ [c]) (c.leaves env r) := by
  cases c with
  | obtain name level file format =>
      exact h.obtain (h.isApart hproper).ne_nil level file format
  | log name level message surroundings => exact h.log hproper

end Follows

/-- **The registry is what the calls say**, after every history. -/
theorem follows_after {calls : List Call} (h : IsProper calls) :
    Follows env calls (after env calls) := by
  induction calls using List.reverseRecOn with
  | nil => exact follows_start
  | append_singleton calls c ih =>
      rw [after_concat]
      exact (ih (h.mono (List.subset_append_left ..))).leaves h

theorem firstSetup?_append {calls : List Call} {name : Text} {s : Setup}
    (h : firstSetup? calls name = some s) (later : List Call) :
    firstSetup? (calls ++ later) name = some s := by
  rw [firstSetup?, List.findSome?_append, ← firstSetup?, h, Option.some_or]

/-- What a call for a logger gives after other calls: its answer, and the registry it leaves. -/
structure Answers (env : Environment) (before : List Call) (name level : Text)
    (file format : Option Text) (result : Except Fault Logger × Registry) : Prop where
  /-- A logger that is set up is returned, and nothing changes, whatever is asked for. -/
  again : ∀ s, firstSetup? before name = some s → result = (.ok (s.logger name), after env before)
  /-- Otherwise the call sets it up if it can. -/
  first : ∀ s, firstSetup? before name = none →
    (Call.obtain name level file format).setup? = some s → result.1 = .ok (s.logger name)
  /-- If it names no level, it fails, and there are no handlers. -/
  unknown : firstSetup? before name = none → (∀ n, levelNamed level ≠ .ok n) →
    result.1 = .error .noMember ∧ (result.2.logger name).handlers = []
  /-- If its format has no placeholder, it fails, and there are no handlers. -/
  refused : firstSetup? before name = none → (∃ n, levelNamed level = .ok n) →
    ¬ Format.HasPlaceholder (formatText format) →
    result.1 = .error (.invalidFormat (formatText format)) ∧ (result.2.logger name).handlers = []

theorem Follows.answers {before : List Call} (h : Follows env before (after env before))
    {name : Text} (hname : name ≠ []) (level : Text) (file format : Option Text) :
    Answers env before name level file format
      ((after env before).obtain name (.item (.text level)) file format) := by
  obtain ⟨s, hs, hresult⟩ | ⟨hnone, answer, l, r', hresult, hset, -, hfits, hcases⟩ :=
    h.obtain_cases hname level file format
  · rw [hresult]
    constructor
    · intro s' hs'
      rw [hs] at hs'
      obtain rfl := Option.some.inj hs'
      rfl
    · simp [hs]
    · simp [hs]
    · simp [hs]
  · have hlogger : r'.logger name = l := by rw [hset.logger, if_pos rfl]
    rw [hresult]
    obtain ⟨s, hs, hanswer⟩ | ⟨hs, hfails⟩ := hcases
    · obtain ⟨hlevel, hformat, -, -⟩ := setup?_obtain_eq_some_iff.1 hs
      constructor
      · simp [hnone]
      · intro s' _ hs'
        rw [hs] at hs'
        obtain rfl := Option.some.inj hs'
        exact hanswer
      · intro _ hunknown
        exact absurd hlevel (hunknown s.level)
      · intro _ _ hrefused
        exact absurd (Format.isValid_iff.1 hformat) hrefused
    · have hbare : (r'.logger name).handlers = [] := by
        rw [hs] at hfits
        rw [hlogger]
        exact hfits
      constructor
      · simp [hnone]
      · simp [hs]
      · intro _ hunknown
        obtain ⟨e, hlevel, hanswer⟩ | ⟨⟨n, hn⟩, -, -⟩ := hfails
        · rw [hanswer, levelNamed_error hlevel]
          exact ⟨rfl, hbare⟩
        · exact absurd hn (hunknown n)
      · rintro _ ⟨n, hn⟩ -
        obtain ⟨e, hlevel, -⟩ | ⟨-, -, hanswer⟩ := hfails
        · rw [hlevel] at hn
          cases hn
        · exact ⟨hanswer, hbare⟩

/-- What a message does after other calls: the answer to its caller, and the registry it leaves. -/
structure Logs (env : Environment) (before : List Call) (name : Text) (level : Int)
    (message : Text) (surroundings : List (Text × Attribute))
    (result : Except Fault Unit × Registry) : Prop where
  /-- Each destination of the logger gets one line, if there is a line for it. -/
  written : ∀ s record, firstSetup? before name = some s → s.level ≤ level →
    Record.make name level message surroundings = .ok record →
    result.1 = .ok () ∧ ∀ d, result.2.content d = (after env before).content d ++
      if s.WritesTo d then (env.line? s.format record d).getD [] else []
  /-- A level that has no name is an error, and nothing is written. -/
  nameless : ∀ s e, firstSetup? before name = some s → s.level ≤ level →
    Record.make name level message surroundings = .error e →
    result.1 = .error .digitLimit ∧ ∀ d, result.2.content d = (after env before).content d
  /-- A message below the level of the logger is not written. -/
  below : ∀ s, firstSetup? before name = some s → level < s.level →
    result.1 = .ok () ∧ ∀ d, result.2.content d = (after env before).content d
  /-- Without a logger that is set up, nothing is written. -/
  bare : firstSetup? before name = none → ∀ d, result.2.content d = (after env before).content d

theorem IsProper.logs {before : List Call} {name : Text} {level : Int} {message : Text}
    {surroundings : List (Text × Attribute)}
    (hproper : IsProper (before ++ [.log name level message surroundings])) :
    Logs env before name level message surroundings
      ((after env before).log env name level message surroundings) := by
  have hbefore : IsProper before := hproper.mono (List.subset_append_left ..)
  have h : Follows env before (after env before) := follows_after hbefore
  have hcontent := h.content_log hproper
  have hanswer : ∀ s, firstSetup? before name = some s →
      ((after env before).log env name level message surroundings).1 =
        if s.level ≤ level then (Record.make name level message surroundings).map fun _ => ()
        else .ok () := by
    intro s hs
    have hpos : 0 < ((after env before).logger name).level := h.configured hs ▸ hbefore.pos hs
    have hapart : (after env before).IsApart name := h.isApart hproper
    rw [log_fst env hapart hpos, h.configured hs]
    rfl
  constructor
  · intro s record hs hle hrecord
    refine ⟨by rw [hanswer s hs, if_pos hle, hrecord]; rfl, fun d => ?_⟩
    rw [hcontent, Call.line?, hs, Option.bind_some, hrecord]
    by_cases hd : s.WritesTo d
    · rw [if_pos ⟨hle, hd⟩, if_pos hd]
      rfl
    · rw [if_neg (fun hboth => hd hboth.2), if_neg hd, Option.getD_none]
  · intro s e hs hle hrecord
    refine ⟨by rw [hanswer s hs, if_pos hle, hrecord, ← Record.make_error hrecord]; rfl,
      fun d => ?_⟩
    rw [hcontent, Call.line?, hs, Option.bind_some, hrecord]
    simp [Environment.lineOf?, Except.toOption]
  · intro s hs hlt
    refine ⟨by rw [hanswer s hs, if_neg (by omega)], fun d => ?_⟩
    rw [hcontent, Call.line?, hs, Option.bind_some, if_neg (by omega)]
    exact List.append_nil _
  · intro hs d
    rw [hcontent, Call.line?, hs]
    exact List.append_nil _

/-- **A logger is set up once, and every message is written once.**  After every history of plain
calls, about names that are neither empty nor the root, none of them above another, a logger is, and
stays, as the first call for it says that names a level and has no format without a placeholder, and
it has no handlers if there is none.  Asking for a logger that is set up returns it and changes
nothing; asking for another one sets it up, unless the level is unknown or the format has no
placeholder, and then it has no handlers.  A message whose level is not below that of its logger
adds one line to the console and one to the file of the logger, if it has one, and nothing to other
files; only if its level has no name, the format makes no line of it, or a destination does not take
the line, it is not written there.  So each destination holds one line for each of these messages,
in their order, and nothing else. -/
theorem configured_once (env : Environment) {calls : List Call} (h : IsProper calls) :
    (∀ name,
      (∀ before later s, calls = before ++ later → firstSetup? before name = some s →
        (after env calls).logger name = s.logger name) ∧
        (firstSetup? calls name = none → ((after env calls).logger name).handlers = [])) ∧
      (∀ d, (after env calls).content d = (written env d [] calls).flatten) ∧
      (∀ before name level file format later,
        calls = before ++ .obtain name level file format :: later →
          Answers env before name level file format
            ((after env before).obtain name (.item (.text level)) file format)) ∧
      ∀ before name level message surroundings later,
        calls = before ++ .log name level message surroundings :: later →
          Logs env before name level message surroundings
            ((after env before).log env name level message surroundings) := by
  have hfollows : Follows env calls (after env calls) := follows_after h
  refine ⟨fun name => ⟨?_, hfollows.bare⟩, hfollows.content, ?_, ?_⟩
  · rintro before later s rfl hs
    exact hfollows.configured (firstSetup?_append hs later)
  · rintro before name level file format later rfl
    have hbefore : Follows env before (after env before) :=
      follows_after (h.mono (List.subset_append_left ..))
    exact hbefore.answers (h.ne_nil (.obtain name level file format) (by simp)) level file format
  · rintro before name level message surroundings later rfl
    exact (h.mono (by simp)).logs

/-- The logger is asked for three times: the first level is unknown, the second call sets it up, and
the third one changes nothing, though its format has no placeholder; so a message is written once to
each place. -/
theorem configured_once_asked_again :
    let calls : List Call :=
      [.obtain "a" "loud" none none,
        .obtain "a" "debug" (some "f") (some "%(levelname)-6s|%(lineno)d|%(message)s"),
        .obtain "a" "ERROR" none (some "plain"), .log "a" 10 "m" [("lineno", .number 7)]]
    IsProper calls ∧ ((after .plain calls).logger "a").level = 10 ∧
      (after .plain calls).content .console = Text.ofString "DEBUG |7|m\n" ∧
      (after .plain calls).content (.file "f") = Text.ofString "DEBUG |7|m\n" := by
  intro calls
  have hproper : IsProper calls :=
    ⟨by decide +kernel, by decide +kernel, by decide +kernel, by decide +kernel⟩
  obtain ⟨hlogger, hcontent, -, -⟩ := configured_once .plain hproper
  have hsetup : firstSetup? calls "a" =
      some ⟨10, some "f", "%(levelname)-6s|%(lineno)d|%(message)s"⟩ := by decide +kernel
  refine ⟨hproper, ?_, (hcontent _).trans ?_, (hcontent _).trans ?_⟩
  · rw [(hlogger "a").1 calls [] _ (List.append_nil _).symm hsetup]
    rfl
  · decide +kernel
  · decide +kernel

/-- What the statement does not promise.  With a format that is refused, a known level does not set
a logger up, and the next call does.  The root is above every name, so it writes the messages of all
of them as well.  And a message is not written if its format makes no line of it, if it holds a
surrogate where the lines are encoded in UTF-8, or if its level is too long a number to be named,
which its caller is told. -/
theorem configured_once_exceptions :
    (levelNamed "INFO" = .ok 20 ∧
      ((after .plain [.obtain "a" "INFO" none (some "plain")]).logger "a").handlers = [] ∧
      ((after .plain [.obtain "a" "INFO" none (some "plain"),
        .obtain "a" "DEBUG" none none]).logger "a").level = 10) ∧
      (after .plain [.obtain "root" "INFO" none (some "%(message)s"),
        .obtain "a" "INFO" none (some "%(message)s"), .log "a" 20 "m" []]).console =
          Text.ofString "m\nm\n" ∧
      (after .plain [.obtain "a" "INFO" none (some "%(message)s %(nosuch)s"),
        .log "a" 20 "m" []]).console = [] ∧
      (after .plain [.obtain "a" "INFO" none (some "%(message)s"),
        .log "a" 20 [0xD800] []]).console = [] ∧
      let r := after .plain [.obtain "a" "INFO" none (some "%(message)s")]
      (r.log .plain "a" (10 ^ digitLimit : Nat) "m" []).1 = .error .digitLimit ∧
        (r.log .plain "a" (10 ^ digitLimit : Nat) "m" []).2.console = [] := by
  refine ⟨⟨by decide +kernel, by decide +kernel, by decide +kernel⟩, by decide +kernel,
    by decide +kernel, by decide +kernel, ?_⟩
  have hlarge : 10 ^ 2 ≤ 10 ^ digitLimit := Nat.pow_le_pow_right (by decide) (by decide)
  have hlevel : (20 : Int) ≤ (10 ^ digitLimit : Nat) := by omega
  have hname : levelText (10 ^ digitLimit : Nat) = .error .digitLimit :=
    levelText_eq_error (Int.natAbs_natCast _).ge
  -- the number is too large to be computed with
  generalize ((10 ^ digitLimit : Nat) : Int) = level at hlevel hname ⊢
  have hproper : IsProper
      ([.obtain "a" "INFO" none (some "%(message)s")] ++ [.log "a" level "m" []]) :=
    ⟨by simp [Call.IsPlain]; decide +kernel, by simp [Call.name]; decide +kernel,
      by simp [Call.name]; decide +kernel, by simp [Call.name]; decide +kernel⟩
  have hsetup : firstSetup? [.obtain "a" "INFO" none (some "%(message)s")] "a" =
      some ⟨20, none, "%(message)s"⟩ := by decide +kernel
  have hrecord : Record.make "a" level "m" [] = .error .digitLimit := by
    rw [Record.make, hname]
    rfl
  obtain ⟨hanswer, hcontent⟩ := hproper.logs.nameless _ _ hsetup hlevel hrecord
  exact ⟨hanswer, hcontent .console⟩

end ScriptTutor.Logging
