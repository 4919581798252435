import SplitTunnel.Json.Settled
import SplitTunnel.Log.Filter
import SplitTunnel.Storage
import SplitTunnel.Text.Bytes
import SplitTunnel.Text.Lines
import SplitTunnel.Text.Quoted

/-!
# Logging into a file (`SPEC_FULL.md` §10.1, `logging`)

Logging is set up once. Its records go to a file, if one is named, one document a line behind what
the file holds already.

* `Session.start` (`init`): sets logging up. The file is opened first, and logging that is set up
  already is an error only then.
* `Session.panic`: notes that something went wrong, if logging is set up.
* `Session.lines`: what a file holds in the end, without the times of its records.
-/

namespace SplitTunnel.Log

/-- A record of the log, on a line of its own. -/
structure Record where
  level : Level
  /-- The identity of the place that logs. -/
  id : String
  message : String
  /-- The file that logging goes to, in the record that says so. -/
  logFile : Option String := none
deriving DecidableEq, Repr

/-- The target of the records of this module. -/
def target : String := "tunguard::logging"

namespace Record

/-- The fields of `r` in a line of the log. -/
def fields (r : Record) : List (String × Json) :=
  let logFile :=
    match r.logFile with
    | none => []
    | some path =>
      [("log_file", Json.str ("Some(" ++ String.ofList (Text.quote path.toList) ++ ")"))]
  [("message", .str r.message), ("message_id", .str r.id)] ++ logFile

/-- `r` as a document, without its time. -/
def toJson (r : Record) : Json :=
  .obj [
    ("level", .str r.level.label),
    ("target", .str target),
    ("fields", .obj r.fields)]

end Record

/-- Why `Session.start` does not set logging up. -/
inductive StartError where
  | notOpened (path : String)
  | alreadyStarted
deriving DecidableEq, Repr

/-- The wording of the error. -/
def StartError.message : StartError → String
  | notOpened path => "failed to open log file " ++ path
  | alreadyStarted => "failed to set global subscriber"

/-- Where records go. -/
inductive Sink where
  /-- Logging is not set up. -/
  | unset
  | nowhere
  | file (name : String)
deriving DecidableEq, Repr, Inhabited

/-- A process that logs. -/
structure Session where
  folder : Folder
  filter : Filter
  sink : Sink := .unset
  /-- The records that have been written, each with its file. -/
  written : List (String × Record) := []
deriving DecidableEq, Repr, Inhabited

namespace Session

/-- Writes `r`, if it is to be logged. -/
def emit (s : Session) (r : Record) : Session :=
  match s.sink with
  | .file name =>
    if s.filter.enables target (r.fields.map Prod.fst) r.level then
      { s with written := s.written ++ [(name, r)] }
    else s
  | .unset | .nowhere => s

/-- Opens `path` for records. A file that is missing is made if its folder is there. -/
def openSink (s : Session) (path : String) : Except StartError (Session × Sink) :=
  match s.folder.find path with
  | .file name => .ok (s, .file name)
  | .free name => .ok ({ s with folder := s.folder.put name [] }, .file name)
  | .outside _ => .ok (s, .nowhere)
  | .folder | .missing | .refused => .error (.notOpened path)

/-- Sets logging up on `sink`. -/
def begin (s : Session) (sink : Sink) (path : Option String) : Session × Except StartError Unit :=
  if s.sink = .unset then
    ({ s with sink }
      |>.emit
        { level := .info, id := "Xb3vRf6y", message := "logging initialized", logFile := path }
      |>.emit { level := .info, id := "k0PzHs4e", message := "panic logging hook set" }, .ok ())
  else (s, .error .alreadyStarted)

/-- Sets logging up, with records in the file `path` if there is one. -/
def start (s : Session) (path : Option String) : Session × Except StartError Unit :=
  match path with
  | none => s.begin .nowhere none
  | some file =>
    match s.openSink file with
    | .ok (s, sink) => s.begin sink path
    | .error e => (s, .error e)

/-- Notes that something went wrong, with `payload` for a message. -/
def panic (s : Session) (payload : String) : Session :=
  s.emit { level := .error, id := "W6fhvnSf", message := payload }

/-! ## The file in the end -/

/-- A line of a file: a document without its time, or a text. -/
def lineJson (line : List Char) : Json :=
  match (Json.ofSymbols? (line.map some)).bind Json.settled? with
  | some (.object members) => .object (members.filter fun (k, _) => k != some "timestamp")
  | _ => .str (String.ofList line)

/-- The lines of the file `name`, if it is there. -/
def lines (s : Session) (name : String) : Option (List Json) :=
  (s.folder.files.lookup name).map fun bytes =>
    (Text.lines ((Text.symbols bytes).filterMap id)).map lineJson ++
      (s.written.filter (·.1 == name)).map fun (_, r) => r.toJson

end Session

end SplitTunnel.Log
