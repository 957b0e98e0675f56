import QueryCheck.Client
import QueryCheck.Document.Reader
import QueryCheck.Report
import QueryCheck.Specification.Schema
import QueryCheck.Specification.Values

/-!
# Running specifications

A specification file is read, checked for its shape and its values, built, and verified against the rows
of its query. The first step that fails decides the report.
-/

namespace QueryCheck

inductive RunError where
  | readQuery (path : String) (fault : FileFault)
  | query (error : QueryError)
  | verify (error : VerifyError)
deriving DecidableEq

def RunError.message : RunError → String
  | readQuery path fault => "cannot read query file " ++ path ++ ": " ++ fault.message
  | query error => error.message
  | verify error => error.message

def runSpecification {σ ρ : Type} (files : FileSystem) (client : Client σ ρ) (spec : Specification)
    (s : σ) : Except RunError Verification × σ :=
  match files.readText spec.queryPath with
  | .error fault => (.error (.readQuery spec.queryPath fault), s)
  | .ok text =>
    match client.query text spec.parameters s with
    | .error (e, s) => (.error (.query e), s)
    | .ok rows =>
      match verify spec client.source rows with
      | (.ok v, rest) => (.ok v, client.release rest)
      | (.error e, rest) => (.error (.verify e), client.release rest)

/-- The specification of a file, or how the file is reported; no report can be made when a date-time
leaves the calendar. -/
inductive Loaded where
  | ready (spec : Specification)
  | reported (report : FileReport)
  | beyondCalendar

def load (files : FileSystem) (path : String) : Loaded :=
  match files.readText path with
  | .error fault =>
    .reported (.error path ("error reading file '" ++ path ++ "': " ++ fault.message))
  | .ok text =>
    match Document.read text with
    | .error fault => .reported (.error path (fault.message (files.complaint .yaml text)))
    | .ok doc =>
      match Schema.errors doc with
      | error :: more => .reported (.invalid path (error :: more))
      | [] =>
        match RawSpec.ofDocument doc with
        | .error defect => .reported (.invalid path [defect.toError])
        | .ok raw =>
          match Values.errors files raw .root with
          | error :: more => .reported (.invalid path (error :: more))
          | [] =>
            match Specification.build raw with
            | .ok spec => .ready spec
            | .error (.defect found) => .reported (.invalid path [found.toError])
            | .error .beyondCalendar => .beyondCalendar

/-- A client, or the words that say why there is none. They matter only to a file that gets as far as its
query. -/
abbrev ClientSlot (σ ρ : Type) := Except String (Client σ ρ)

def runFile {σ ρ : Type} (files : FileSystem) (slot : ClientSlot σ ρ) (validateOnly : Bool)
    (path : String) (s : σ) : Option FileReport × σ :=
  match load files path with
  | .beyondCalendar => (none, s)
  | .reported report => (some report, s)
  | .ready spec =>
    if validateOnly then (some (.valid path), s)
    else
      match slot with
      | .error message => (some (.error path message), s)
      | .ok client =>
        match runSpecification files client spec s with
        | (.ok v, s) => (some (.verified path ⟨spec.guardTexts, v⟩), s)
        | (.error (.query .beyondCalendar), s) => (none, s)
        | (.error e, s) => (some (.error path e.message), s)

/-- The reports of files one after the other, as far as they can be reported. -/
def runFiles {σ ρ : Type} (files : FileSystem) (slot : ClientSlot σ ρ) (validateOnly : Bool) :
    List String → σ → Option (List FileReport) × σ
  | [], s => (some [], s)
  | path :: rest, s =>
    match runFile files slot validateOnly path s with
    | (none, s) => (none, s)
    | (some report, s) =>
      match runFiles files slot validateOnly rest s with
      | (some reports, s) => (some (report :: reports), s)
      | (none, s) => (none, s)

end QueryCheck
