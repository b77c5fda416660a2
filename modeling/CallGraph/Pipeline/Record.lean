import CallGraph.Pipeline.Generation
/-!
Records: one line of JSON names an artifact and the date of its release. Whatever goes wrong with
the artifact is part of the outcome; only faults end more than the work on this record.
-/
namespace CallGraph.Pipeline

/-- How the work on an artifact ended. -/
inductive Status where
  /-- There is a call graph, and it has calls. -/
  | ok
  /-- There is a call graph without calls. -/
  | empty
  | failed
deriving DecidableEq, Repr

def Status.name : Status → String
  | .ok => "ok"
  | .empty => "empty"
  | .failed => "failed"

/-- What became of one artifact. -/
structure Outcome where
  coordinate : String
  status : Status
  document : Option Revision
  failureKind : Option String
  message : Option String

namespace Outcome

/-- The work on the artifact did not fail. -/
def isOk (outcome : Outcome) : Bool := outcome.status != .failed

/-- The outcome for an artifact that has a document. -/
def ofDocument (coordinate : String) (doc : Revision) : Outcome :=
  ⟨coordinate, if doc.isEmpty then .empty else .ok, some doc, none, none⟩

/-- The outcome for an artifact that has none. -/
def ofFailure (coordinate kind message : String) : Outcome :=
  ⟨coordinate, .failed, none, some kind, some message⟩

end Outcome

/-- What stands for a coordinate that could not be read. -/
def unknownCoordinate : String := "UNKNOWN COORDINATE"

/-- The outcome of work on an artifact: its document, or why there is none. -/
def outcomeOf (coordinate : String) (work : Trace Revision) : Trace Outcome :=
  match work.result with
  | .ok doc => ⟨work.events, .ok (.ofDocument coordinate doc)⟩
  | .error (.failure failure) =>
    ⟨work.events, .ok (.ofFailure coordinate failure.kindName failure.message)⟩
  | .error (.fault fault) => ⟨work.events, .error (.fault fault)⟩

section

variable [Platform]

def processCoordinate (fetcher : Maven.Fetcher) (analyzer : Analyzer) (files : FileTree)
    (coordinate : Maven.Coordinate) (timestamp : Int) : Trace Outcome :=
  outcomeOf coordinate.text (generate fetcher analyzer files coordinate timestamp)

/-- The coordinate of a record, looked for in the given repositories if there are any. -/
def recordCoordinate (repos : List String) (record : Json) : Except Stop Maven.Coordinate :=
  match record with
  | .object members =>
    match Maven.Coordinate.ofRecord members with
    | .ok coordinate => .ok (coordinate.withRepos repos)
    | .error defect => .error defect.stop
  | _ => .error (.failure .recordNoObject)

def recordDate (coordinate : Maven.Coordinate) (record : Json) : Except Stop Int :=
  match record with
  | .object members =>
    match Json.member? "date" members with
    | some value => (Timestamp.ofJson value).mapError Timestamp.Defect.stop
    | none => .error (.failure (.recordWithoutDate coordinate.text))
  | _ => .error (.failure .recordNoObject)

/-- The outcome for a record that is rejected before any work on the artifact. -/
def rejected (coordinate : String) (failure : Failure) : Outcome :=
  .ofFailure coordinate FailureKind.malformedInput.name failure.message

/-- How the work on a record ends that is stopped before any work on the artifact. -/
def turnedDown (coordinate : String) : Stop → Trace Outcome
  | .failure failure => pure (rejected coordinate failure)
  | .fault fault => .ofExcept (.error (.fault fault))

/-- The outcome for a record in UTF-8. -/
def processRecord (fetcher : Maven.Fetcher) (analyzer : Analyzer) (files : FileTree)
    (repos : List String) (record : Octets) : Trace Outcome :=
  match Json.ofOctets? .strict record with
  | none => pure (rejected unknownCoordinate (.recordUnreadable (Platform.complaint .json record)))
  | some value =>
    match recordCoordinate repos value with
    | .error stop => turnedDown unknownCoordinate stop
    | .ok coordinate =>
      match recordDate coordinate value with
      | .error stop => turnedDown coordinate.text stop
      | .ok timestamp => processCoordinate fetcher analyzer files coordinate timestamp

end

end CallGraph.Pipeline
