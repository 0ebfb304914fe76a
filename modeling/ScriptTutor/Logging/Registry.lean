/-
**Loggers by name.**

A logger is set up by the first call that asks for its name and succeeds; later calls return it as
it is.  It writes to the console, and to a file if one was given.  The names form a tree: a dot
separates a name from its parent, and the root is above all names.  A record is also written by the
loggers above its own, and a logger without a level has that of the next logger above it.

Main definitions:

* `ScriptTutor.Logging.Logger` — a logger and its handlers;
* `ScriptTutor.Logging.Registry` — all loggers, and what they have written;
* `ScriptTutor.Logging.Environment` — what makes a line of a record, and what is taken where;
* `ScriptTutor.Logging.Registry.lineage` — a name, the names above it, and the root;
* `ScriptTutor.Logging.Registry.obtain` — the logger of a name;
* `ScriptTutor.Logging.Registry.log` — a record under a name.
-/

import ScriptTutor.Logging.Rendering

set_option relaxedAutoImplicit false
set_option autoImplicit false

namespace ScriptTutor.Logging

inductive Destination where
  | console
  | file (path : Text)
  deriving DecidableEq

/-- A destination with the format of the lines that are written there. -/
structure Handler where
  destination : Destination
  format : Text
  deriving DecidableEq

/-- A logger: its name, its level, zero for none, and its handlers. -/
structure Logger where
  name : Text
  level : Int
  handlers : List Handler
  deriving DecidableEq

/-- All loggers, and what they have written to the console and to the files. -/
structure Registry where
  loggers : List Logger
  console : Text
  files : List (Text × Text)

/-- What is outside of the loggers: how a format and a record make a line, if they do, and which
lines a destination takes, as it may be unable to encode one. -/
structure Environment where
  render : Text → Record → Option Text
  accepts : Destination → Text → Bool

namespace Environment

/-- The line that a destination gets for a record; without one, nothing is written. -/
def line? (env : Environment) (format : Text) (record : Record) (d : Destination) : Option Text :=
  ((env.render format record).map fun line : Text => line ++ "\n").filter (env.accepts d)

/-- The environment in which all destinations are encoded in UTF-8, which has no surrogates. -/
def plain : Environment := ⟨Format.render, fun _ line => !line.any (·.isSurrogate)⟩

end Environment

def rootName : Text := "root"

/-- The name of the logger that a name means; the empty name means the root. -/
def properName (name : Text) : Text := if name.isEmpty then rootName else name

namespace Registry

/-- The registry before the first call; the root has a level from the start. -/
def start : Registry := ⟨[⟨rootName, 30, []⟩], [], []⟩

/-- The logger of a name as it stands; a name that was never used has one without level and
handlers. -/
def logger (r : Registry) (name : Text) : Logger :=
  (r.loggers.find? (·.name == name)).getD ⟨name, 0, []⟩

/-- Whether the name has been used. -/
def knows (r : Registry) (name : Text) : Bool := r.loggers.any (·.name == name)

/-- The registry with the logger in place of the one of its name. -/
def put (l : Logger) (r : Registry) : Registry :=
  { r with loggers := l :: r.loggers.filter (·.name != l.name) }

def ensure (name : Text) (r : Registry) : Registry :=
  if r.knows name then r else r.put ⟨name, 0, []⟩

/-! ### Names above a name -/

/-- The names in use above a name, which is given from its end, from the next one to the outermost.
What stands before a dot is above the name if it is in use; if it is not, its last character is
passed over, be it a dot as well. -/
def namesAbove (r : Registry) : Text → List Text
  | c :: d :: t =>
    if c = '.' then
      if r.knows (d :: t).reverse && (d :: t).reverse != rootName then
        (d :: t).reverse :: r.namesAbove (d :: t)
      else r.namesAbove t
    else r.namesAbove (d :: t)
  | _ => []

/-- A name, the names in use above it, and the root. -/
def lineage (r : Registry) (name : Text) : List Text :=
  if name = rootName then [rootName] else name :: r.namesAbove name.reverse ++ [rootName]

/-! ### Writing -/

/-- The files with a text added at the end of one of them, which is created if need be. -/
def addToFile (path text : Text) : List (Text × Text) → List (Text × Text)
  | [] => [(path, text)]
  | (p, t) :: files =>
    if p = path then (p, t ++ text) :: files else (p, t) :: addToFile path text files

def write (text : Text) (d : Destination) (r : Registry) : Registry :=
  match d with
  | .console => { r with console := r.console ++ text }
  | .file path => { r with files := addToFile path text r.files }

/-- The level that decides for a name: that of the first logger in its lineage that has one. -/
def effectiveLevel (r : Registry) (name : Text) : Int :=
  (((r.lineage name).map fun n => (r.logger n).level).find? (· != 0)).getD 0

def handlers (r : Registry) (name : Text) : List Handler :=
  (r.lineage name).flatMap fun n => (r.logger n).handlers

def handle (env : Environment) (record : Record) (r : Registry) (h : Handler) : Registry :=
  match env.line? h.format record h.destination with
  | some line => r.write line h.destination
  | none => r

def emit (env : Environment) (record : Record) (r : Registry) : Registry :=
  (r.handlers record.logger).foldl (handle env record) r

/-- Logs a message under a name.  A level of zero or below is no level. -/
def log (env : Environment) (name : Text) (level : Int) (message : Text)
    (surroundings : List (Text × Attribute)) (r : Registry) : Except Fault Unit × Registry :=
  let name := properName name
  let r := r.ensure name
  if 0 < level ∧ r.effectiveLevel name ≤ level then
    match Record.make name level message surroundings with
    | .ok record => (.ok (), r.emit env record)
    | .error e => (.error e, r)
  else (.ok (), r)

/-! ### Loggers -/

/-- The handlers of a logger that is set up: one for the console, and one for a file if there is
one. -/
def handlersFor (file : Option Text) (format : Text) : List Handler :=
  ⟨.console, format⟩ ::
    match file with
    | some path => [⟨.file path, format⟩]
    | none => []

/-- The format of a logger: the one that is asked for, unless it is empty. -/
def formatText (format : Option Text) : Text :=
  (format.filter (!·.isEmpty)).getD Format.standard

/-- Gives an unused logger its level and its handlers.  The level is kept if the format is
refused. -/
def configure (name : Text) (levelName : Value) (file : Option Text) (format : Text)
    (r : Registry) : Except Fault Logger × Registry :=
  match levelOf levelName with
  | .error e => (.error e, r)
  | .ok level =>
    if Format.isValid format then
      let l : Logger := ⟨name, level, handlersFor file format⟩
      let r := r.put l
      match file with
      | some path => (.ok l, r.write [] (.file path))
      | none => (.ok l, r)
    else (.error (.invalidFormat format), r.put ⟨name, level, []⟩)

/-- The logger of a name.  One that has handlers is returned as it is. -/
def obtain (name : Text) (levelName : Value) (file format : Option Text) (r : Registry) :
    Except Fault Logger × Registry :=
  let name := properName name
  let r := r.ensure name
  if (r.logger name).handlers.isEmpty then configure name levelName file (formatText format) r
  else (.ok (r.logger name), r)

end Registry

end ScriptTutor.Logging
