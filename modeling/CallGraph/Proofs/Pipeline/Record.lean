import CallGraph.Pipeline.Record
import CallGraph.Proofs.Maven.Search
import CallGraph.Proofs.Revision.Build

/-! What ends the work on a record. Failures of any kind become part of the
outcome. Where addresses and the analyzer do no more than fail, faults are left
that lie with the data: a part or a date that is nested too deeply to be shown, a
date whose digits are too many for a number, a build file that names a character
set which cannot be used, and a call graph with numbers that are too long. -/
namespace CallGraph
open Listing

section Faultless

variable {α β : Type}

@[simp] theorem Trace.result_bind (first : Trace α) (next : α → Trace β) :
    (first >>= next).result = first.result >>= fun a => (next a).result := by
  show (first.andThen next).result = _
  unfold Trace.andThen
  cases first.result <;> rfl

end Faultless

namespace Timestamp

/-- The text of an integer with more digits than are read as a number. -/
def TooLong (text : String) : Prop :=
  (splitSign (Text.trimBy Text.isBlank text.toList)).2.all Text.isAsciiDigit = true ∧
    Text.maxDigits < (splitSign (Text.trimBy Text.isBlank text.toList)).2.length

section

variable [Platform] {value : Json}

end

end Timestamp

namespace Maven

variable {fetcher : Fetcher}

/-- The fault that a build file brings about which cannot be read. -/
def charsetFault? : Xml.Defect → Option Fault
  | .malformed => none
  | .unknownCharset => some .unknownCharset
  | .wideCharset => some .wideCharset
  | .unusableCharset name => some (.unusableCharset name)

/-- The build file that a search for it comes to names a character set that is
not known or cannot be used. -/
def CharsetFault (fetcher : Fetcher) (coordinate : Coordinate) (fault : Fault) : Prop :=
  ∃ pom, (fetchPom fetcher coordinate).result = .ok pom ∧
    ∃ defect, Xml.parse pom = .error defect ∧ charsetFault? defect = some fault

section

variable [Platform] {coordinate : Coordinate} {fault : Fault}

/-- The dependencies of the artifact are found. -/
def Resolvable (fetcher : Fetcher) (coordinate : Coordinate) : Prop :=
  ∃ depset, (resolveDependencies fetcher coordinate).result = .ok depset

variable {part : Part} {members : List (String × Json)} {text : String}

/-- The record has the part, and it is shown as the text. -/
def Shows (members : List (String × Json)) (part : Part) (text : String) : Prop :=
  ∃ value, Json.member? part.name members = some value ∧ value.isTooDeep = false ∧
    value.asText = text

/-- The record has the part, and it is nested too deeply to be shown. -/
def TooDeep (members : List (String × Json)) (part : Part) : Prop :=
  ∃ value, Json.member? part.name members = some value ∧ value.isTooDeep = true

/-- A part is nested too deeply to be shown, and those before it are shown. -/
def HasDeepPart (members : List (String × Json)) : Prop :=
  TooDeep members .group ∨ (∃ group, Shows members .group group) ∧
    (TooDeep members .artifact ∨ (∃ artifact, Shows members .artifact artifact) ∧
      TooDeep members .version)

theorem recordPart_eq_ok_iff :
    Coordinate.recordPart part members = .ok text ↔ Shows members part text := by
  unfold Coordinate.recordPart Shows
  cases Json.member? part.name members with
  | none => simp
  | some value => cases deep : value.isTooDeep <;> simp [deep]

theorem recordPart_eq_tooDeep_iff :
    Coordinate.recordPart part members = .error .tooDeep ↔ TooDeep members part := by
  unfold Coordinate.recordPart TooDeep
  cases Json.member? part.name members with
  | none => simp
  | some value => cases deep : value.isTooDeep <;> simp [deep]

theorem ofRecord_eq_tooDeep_iff :
    Coordinate.ofRecord members = .error .tooDeep ↔ HasDeepPart members := by
  simp only [Coordinate.ofRecord, bind_eq_error, recordPart_eq_tooDeep_iff, recordPart_eq_ok_iff,
    mapError_eq_error, HasDeepPart, exists_and_right, reduceCtorEq, and_false, exists_false,
    or_false]

end

end Maven

namespace Pipeline
open Maven (Fetcher Coordinate)

variable {fetcher : Fetcher} {analyzer : Analyzer} {files : FileTree} {jar : FilePath}
  {fault : Fault}

/-- The call graph of the classes in a file has numbers that are too long. -/
def Overflows (analyzer : Analyzer) (files : FileTree) (jar : FilePath) : Prop :=
  ∃ raw graph, analyzer files [jar] = .ok raw ∧ raw.assemble = .ok graph ∧
    ¬ Revision.Writable graph

theorem outcomeOf_eq_ok {label : String} {work : Trace Revision} {outcome : Outcome} :
    (outcomeOf label work).result = .ok outcome ↔
      (∃ doc, work.result = .ok doc ∧ outcome = .ofDocument label doc) ∨
      ∃ failure, work.result = .error (.failure failure) ∧
        outcome = .ofFailure label failure.kindName failure.message := by
  unfold outcomeOf
  cases work.result with
  | ok doc => simp [eq_comm]
  | error stop => cases stop <;> simp [eq_comm]

section

variable [Platform]

/-- The record names the coordinate, with repositories to look for it in, and
the date. -/
def Reads (repos : List String) (record : Octets) (coordinate : Coordinate) (date : Json) : Prop :=
  ∃ members, Json.ofOctets? .strict record = some (.object members) ∧
    recordCoordinate repos (.object members) = .ok coordinate ∧
    Json.member? "date" members = some date

/-- What brings a fault about in the work on a record. -/
inductive RecordFault (fetcher : Fetcher) (analyzer : Analyzer) (files : FileTree)
    (repos : List String) (record : Octets) : Fault → Prop
  /-- A part is nested too deeply to be shown. -/
  | part {members : List (String × Json)}
      (read : Json.ofOctets? .strict record = some (.object members))
      (deep : Maven.HasDeepPart members) :
      RecordFault fetcher analyzer files repos record .tooDeep
  /-- The date is a text with too many digits. -/
  | date {coordinate : Coordinate} {text : String}
      (reads : Reads repos record coordinate (.string text)) (long : Timestamp.TooLong text) :
      RecordFault fetcher analyzer files repos record .unreadableNumeral
  /-- The date is nested too deeply to be shown. -/
  | nesting {coordinate : Coordinate} {date : Json} (reads : Reads repos record coordinate date)
      (deep : date.isTooDeep = true) : RecordFault fetcher analyzer files repos record .tooDeep
  /-- The build file names a character set that is not known or cannot be used. -/
  | charset {coordinate : Coordinate} {date : Json} {timestamp : Int} {fault : Fault}
      (reads : Reads repos record coordinate date) (dated : Timestamp.ofJson date = .ok timestamp)
      (named : Maven.CharsetFault fetcher coordinate fault) :
      RecordFault fetcher analyzer files repos record fault
  /-- The call graph has numbers that are too long. -/
  | numbers {coordinate : Coordinate} {date : Json} {timestamp : Int} {jar : Octets}
      (reads : Reads repos record coordinate date) (dated : Timestamp.ofJson date = .ok timestamp)
      (resolved : Maven.Resolvable fetcher coordinate)
      (served : (Maven.fetchJar fetcher coordinate).result = .ok jar)
      (long : Overflows analyzer (withTemporaryJar files jar) temporaryJar) :
      RecordFault fetcher analyzer files repos record .numberTooLong

variable {repos : List String} {record : Octets} {coordinate : Coordinate} {date : Json}
  {stop : Stop}

theorem recordCoordinate_eq_fault {value : Json} :
    recordCoordinate repos value = .error (.fault fault) ↔
      ∃ members, value = .object members ∧ Maven.HasDeepPart members ∧ fault = .tooDeep := by
  cases value with
  | object members =>
    simp only [recordCoordinate, Json.object.injEq, exists_eq_left',
      ← Maven.ofRecord_eq_tooDeep_iff]
    cases Maven.Coordinate.ofRecord members with
    | ok coordinate => simp
    | error defect => cases defect <;> simp [Maven.RecordDefect.stop, eq_comm]
  | _ => simp [recordCoordinate]

/-- A record with a part that cannot be shown is stopped at. -/
theorem processRecord_deep {members : List (String × Json)}
    (read : Json.ofOctets? .strict record = some (.object members))
    (deep : Maven.HasDeepPart members) :
    processRecord fetcher analyzer files repos record = .ofExcept (.error (.fault .tooDeep)) := by
  have stopped : recordCoordinate repos (.object members) = .error (.fault .tooDeep) :=
    recordCoordinate_eq_fault.2 ⟨members, rfl, deep, rfl⟩
  simp only [processRecord, read, stopped]
  rfl

/-- A record that does not name a coordinate and a date is rejected, unless one
of its parts cannot be shown. -/
theorem processRecord_unread (fetcher : Fetcher) (analyzer : Analyzer) (files : FileTree)
    (unread : ∀ coordinate date, ¬ Reads repos record coordinate date) :
    (∃ label failure, (processRecord fetcher analyzer files repos record).result =
      .ok (rejected label failure)) ∨
    ∃ members, Json.ofOctets? .strict record = some (.object members) ∧
      Maven.HasDeepPart members := by
  unfold processRecord
  cases read : Json.ofOctets? .strict record with
  | none => exact .inl ⟨_, _, rfl⟩
  | some value =>
    dsimp only
    cases named : recordCoordinate repos value with
    | error stop =>
      cases stop with
      | failure failure => exact .inl ⟨_, _, rfl⟩
      | fault fault =>
        obtain ⟨members, rfl, deep, -⟩ := recordCoordinate_eq_fault.1 named
        exact .inr ⟨members, rfl, deep⟩
    | ok coordinate =>
      cases value with
      | object members =>
        cases dated : Json.member? "date" members with
        | none =>
          simp only [recordDate, dated]
          exact .inl ⟨_, _, rfl⟩
        | some date => exact absurd ⟨members, read, named, dated⟩ (unread coordinate date)
      | _ => cases named

/-- What becomes of a record that names a coordinate and a date depends on
whether the date is a timestamp. -/
theorem processRecord_reads (reads : Reads repos record coordinate date) :
    processRecord fetcher analyzer files repos record =
      match Timestamp.ofJson date with
      | .error defect => turnedDown coordinate.text defect.stop
      | .ok timestamp => processCoordinate fetcher analyzer files coordinate timestamp := by
  obtain ⟨members, read, named, dated⟩ := reads
  simp only [processRecord, read, named, recordDate, dated]
  cases Timestamp.ofJson date <;> rfl

theorem generate_eq_ok {timestamp : Int} {doc : Revision}
    (generated : (generate fetcher analyzer files coordinate timestamp).result = .ok doc) :
    doc.product = coordinate.product ∧ doc.version = coordinate.version := by
  rw [generate, Trace.result_bind] at generated
  obtain ⟨depset, -, generated⟩ := bind_eq_ok.1 generated
  rw [Trace.result_bind] at generated
  obtain ⟨jar, -, generated⟩ := bind_eq_ok.1 generated
  rw [generateForJar, Trace.result_bind] at generated
  obtain ⟨raw, -, generated⟩ := bind_eq_ok.1 generated
  rw [Trace.result_bind] at generated
  obtain ⟨graph, -, built⟩ := bind_eq_ok.1 generated
  obtain ⟨-, rfl⟩ := Revision.build_eq_ok.1 (mapError_eq_ok.1 built)
  exact ⟨rfl, rfl⟩

/-- The outcome of a record is that of a failure, or that of the document which
is generated for the coordinate and the timestamp in the record. -/
theorem processRecord_eq_ok {outcome : Outcome}
    (done : (processRecord fetcher analyzer files repos record).result = .ok outcome) :
    (∃ label kind message, outcome = .ofFailure label kind message) ∨
    ∃ coordinate date timestamp doc, Reads repos record coordinate date ∧
      Timestamp.ofJson date = .ok timestamp ∧
      (generate fetcher analyzer files coordinate timestamp).result = .ok doc ∧
      outcome = .ofDocument coordinate.text doc := by
  by_cases readable : ∃ coordinate date, Reads repos record coordinate date
  · obtain ⟨coordinate, date, reads⟩ := readable
    rw [processRecord_reads reads] at done
    cases dated : Timestamp.ofJson date with
    | error defect =>
      rw [dated] at done
      cases defect with
      | invalid value => exact .inl ⟨_, _, _, (Except.ok.inj done).symm⟩
      | tooManyDigits => cases done
      | tooDeep => cases done
    | ok timestamp =>
      rw [dated] at done
      rcases outcomeOf_eq_ok.1 done with ⟨doc, generated, rfl⟩ | ⟨failure, -, rfl⟩
      · exact .inr ⟨coordinate, date, timestamp, doc, reads, dated, generated, rfl⟩
      · exact .inl ⟨_, _, _, rfl⟩
  · obtain ⟨label, failure, rejectedThere⟩ | ⟨members, read, deep⟩ :=
      processRecord_unread fetcher analyzer files
        fun coordinate date reads => readable ⟨coordinate, date, reads⟩
    · exact .inl ⟨_, _, _, Except.ok.inj (done.symm.trans rejectedThere)⟩
    · rw [processRecord_deep read deep] at done
      cases done

/-- A record that goes well has a document. -/
theorem processRecord_exists_document {outcome : Outcome}
    (done : (processRecord fetcher analyzer files repos record).result = .ok outcome)
    (status : outcome.status = .ok) : ∃ doc, outcome.document = some doc := by
  rcases processRecord_eq_ok done with ⟨_, _, _, rfl⟩ | ⟨_, _, _, doc, -, -, -, rfl⟩
  · cases status
  · exact ⟨doc, rfl⟩

end

end Pipeline

end CallGraph
