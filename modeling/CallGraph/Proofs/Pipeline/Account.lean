import CallGraph.Proofs.Maven.Search
import CallGraph.Proofs.Pipeline.Course

/-! What an outcome says of a record, and what others see of the work on it. The
outcome of a record has a document or says why there is none. The document is
built from the first build file and the first classes that are served, and
nothing is asked for before the record is read, no classes before the
dependencies are known, and no analysis before the classes are there. -/
namespace CallGraph
open Listing

namespace Trace

variable {α β : Type} {first : Trace α} {next : α → Trace β}

theorem events_bind_of_ok {a : α} (done : first.result = .ok a) :
    (first >>= next).events = first.events ++ (next a).events := by
  show (first.andThen next).events = _
  rw [andThen, done]

theorem events_bind_of_error {stop : Stop} (failed : first.result = .error stop) :
    (first >>= next).events = first.events := by
  show (first.andThen next).events = _
  rw [andThen, failed]

end Trace

namespace Maven

variable {fetcher : Fetcher} {coordinate : Coordinate} {depset : DependencySet}

/-- The dependencies are those in the first build file that is served. -/
def Resolves (fetcher : Fetcher) (coordinate : Coordinate) (depset : DependencySet) : Prop :=
  ∃ pom, Serves fetcher (pomUrls coordinate) pom ∧ Pom.readDependencies pom = .ok depset

theorem resolveDependencies_eq_ok_iff [Platform] :
    (resolveDependencies fetcher coordinate).result = .ok depset ↔
      Resolves fetcher coordinate depset := by
  simp only [resolveDependencies, Trace.result_bind, bind_eq_ok, Trace.ofExcept, mapError_eq_ok,
    fetchPom, fetchFirst_eq_ok_iff, Resolves, pomUrls]

theorem resolveDependencies_events [Platform] (fetcher : Fetcher) (coordinate : Coordinate) :
    ∃ poms, poms <+: pomUrls coordinate ∧
      (resolveDependencies fetcher coordinate).events = asked fetcher poms := by
  obtain ⟨poms, initial, seen⟩ :=
    exists_asked fetcher ("POM for " ++ coordinate.text) [] (pomUrls coordinate)
  refine ⟨poms, initial, Eq.trans ?_ seen⟩
  cases fetched : (fetchPom fetcher coordinate).result with
  | ok pom => exact (Trace.events_bind_of_ok fetched).trans (List.append_nil _)
  | error stop => exact Trace.events_bind_of_error fetched

end Maven

namespace Pipeline
open Maven

variable {fetcher : Fetcher} {analyzer : Analyzer} {files : FileTree} {repos : List String}
  {record : Octets} {coordinate : Coordinate} {timestamp : Int} {doc : Revision}

/-! Records. -/

theorem checkPart_eq_ok_iff {part : Part} {value : String} {v : { v : String // isPart v = true }} :
    Coordinate.checkPart part value = .ok v ↔ value = v := by
  obtain ⟨v, fine⟩ := v
  rw [Coordinate.checkPart]
  split
  · simp
  · next unfit =>
    constructor
    · intro checked
      split at checked <;> cases checked
    · rintro rfl
      exact absurd fine unfit

theorem make_eq_ok_iff {group artifact version : String} {repos : List String} :
    Coordinate.make group artifact version repos = .ok coordinate ↔
      group = coordinate.group ∧ artifact = coordinate.artifact ∧ version = coordinate.version ∧
        coordinate.repos = repos.map Coordinate.normalizeRepo := by
  constructor
  · intro made
    obtain ⟨group', first, made⟩ := bind_eq_ok.1 made
    obtain ⟨artifact', second, made⟩ := bind_eq_ok.1 made
    obtain ⟨version', third, made⟩ := bind_eq_ok.1 made
    obtain rfl := Except.ok.inj made
    exact ⟨checkPart_eq_ok_iff.1 first, checkPart_eq_ok_iff.1 second,
      checkPart_eq_ok_iff.1 third, rfl⟩
  · rintro ⟨rfl, rfl, rfl, same⟩
    obtain ⟨group, artifact, version, _, group_ok, artifact_ok, version_ok⟩ := coordinate
    obtain rfl := same
    exact bind_eq_ok.2 ⟨⟨group, group_ok⟩, checkPart_eq_ok_iff.2 rfl,
      bind_eq_ok.2 ⟨⟨artifact, artifact_ok⟩, checkPart_eq_ok_iff.2 rfl,
        bind_eq_ok.2 ⟨⟨version, version_ok⟩, checkPart_eq_ok_iff.2 rfl, rfl⟩⟩⟩

/-! Generating. -/

/-- The document is built from the first build file and the first classes that
are served. -/
def Made (fetcher : Fetcher) (analyzer : Analyzer) (files : FileTree) (coordinate : Coordinate)
    (timestamp : Int) (doc : Revision) : Prop :=
  ∃ depset jar raw graph, Resolves fetcher coordinate depset ∧
    Serves fetcher (jarUrls coordinate) jar ∧
    analyzer (withTemporaryJar files jar) [temporaryJar] = .ok raw ∧ raw.assemble = .ok graph ∧
    Revision.build (coordinate.group ++ ":" ++ coordinate.artifact) coordinate.version timestamp
      depset graph = .ok doc

/-- What others see of the work on a coordinate: some of the addresses of its
build file, in their order, then some of those of its classes, and then an
analysis. Each part begins when the part before it has come to its end. -/
inductive Steps (fetcher : Fetcher) (coordinate : Coordinate) : List Event → Prop
  | pom {poms : List String} (initial : poms <+: pomUrls coordinate) :
      Steps fetcher coordinate (asked fetcher poms)
  | jar {poms jars : List String} {depset : DependencySet} (initial : poms <+: pomUrls coordinate)
      (resolved : Resolves fetcher coordinate depset) (further : jars <+: jarUrls coordinate) :
      Steps fetcher coordinate (asked fetcher poms ++ asked fetcher jars)
  | analysis {poms jars : List String} {depset : DependencySet} {jar : Octets} {present : Bool}
      (initial : poms <+: pomUrls coordinate) (resolved : Resolves fetcher coordinate depset)
      (further : jars <+: jarUrls coordinate) (served : Serves fetcher (jarUrls coordinate) jar) :
      Steps fetcher coordinate
        (asked fetcher poms ++ asked fetcher jars ++ [.analyzed [(temporaryJar, present)]])

theorem generateForJar_events (analyzer : Analyzer) (files : FileTree) (jar : FilePath)
    (product version : String) (timestamp : Int) (depset : DependencySet) :
    (generateForJar analyzer files jar product version timestamp depset).events =
      [.analyzed [(jar, files.contains jar)]] := by
  cases analyzed : (analyze analyzer files [jar]).result with
  | error stop => exact Trace.events_bind_of_error analyzed
  | ok raw =>
    refine (Trace.events_bind_of_ok analyzed).trans ?_
    cases raw.assemble <;> rfl

/-! Outcomes. -/

/-- An outcome is a failed one exactly if it has no document, and then it gives
the reason. A document is made in the given way, and the status says whether it
has calls. -/
structure Sound (made : Revision → Prop) (outcome : Outcome) : Prop where
  failed : outcome.status = .failed ↔ outcome.document = none
  reason : outcome.document = none →
    outcome.failureKind.isSome = true ∧ outcome.message.isSome = true
  made : ∀ doc, outcome.document = some doc → made doc
  unset : ∀ doc, outcome.document = some doc → outcome.failureKind = none ∧ outcome.message = none
  ok : ∀ doc, outcome.document = some doc → (outcome.status = .ok ↔ 1 ≤ doc.callCount)
  empty : ∀ doc, outcome.document = some doc → (outcome.status = .empty ↔ doc.callCount = 0)

theorem sound_ofFailure (made : Revision → Prop) (label kind message : String) :
    Sound made (.ofFailure label kind message) where
  failed := by simp [Outcome.ofFailure]
  reason _ := ⟨rfl, rfl⟩
  made _ document := nomatch document
  unset _ document := nomatch document
  ok _ document := nomatch document
  empty _ document := nomatch document

theorem callCount_eq_zero_iff : doc.callCount = 0 ↔ doc.isEmpty = true := by
  simp [Revision.callCount, Revision.isEmpty, Table.size, Table.isEmpty]

theorem sound_ofDocument {made : Revision → Prop} (label : String) (fits : made doc) :
    Sound made (.ofDocument label doc) := by
  have status : (Outcome.ofDocument label doc).status =
      if doc.callCount = 0 then .empty else .ok := by
    simp only [Outcome.ofDocument, callCount_eq_zero_iff]
  have document : ∀ other, (Outcome.ofDocument label doc).document = some other → other = doc :=
    fun other same => (Option.some.inj same).symm
  constructor
  case failed =>
    rw [status]
    split <;> simp [Outcome.ofDocument]
  case reason => exact fun none => nomatch none
  case made =>
    intro other same
    obtain rfl := document other same
    exact fits
  case unset => exact fun _ _ => ⟨rfl, rfl⟩
  case ok =>
    intro other same
    obtain rfl := document other same
    rw [status, Nat.one_le_iff_ne_zero]
    split <;> simp [*]
  case empty =>
    intro other same
    obtain rfl := document other same
    rw [status]
    split <;> simp [*]

theorem outcomeOf_events (label : String) (work : Trace Revision) :
    (outcomeOf label work).events = work.events := by
  unfold outcomeOf
  split <;> rfl

theorem outcomeOf_coordinate {label : String} {work : Trace Revision} {outcome : Outcome}
    (done : (outcomeOf label work).result = .ok outcome) : outcome.coordinate = label := by
  rcases outcomeOf_eq_ok.1 done with ⟨_, -, rfl⟩ | ⟨_, -, rfl⟩ <;> rfl

/-- No coordinate reads like the words for one that is not known. -/
theorem text_ne_unknownCoordinate (coordinate : Coordinate) :
    coordinate.text ≠ unknownCoordinate := by
  intro same
  have colon : ':' ∈ coordinate.text.toList := by simp [Coordinate.text]
  rw [same] at colon
  revert colon
  decide

/-- What is turned down is rejected, unless a fault ends more than the work on it. -/
theorem turnedDown_eq (label : String) (stop : Stop) :
    ∃ result, turnedDown label stop = .ofExcept result ∧
      ∀ outcome, result = .ok outcome → ∃ failure, outcome = rejected label failure := by
  cases stop with
  | failure failure => exact ⟨_, rfl, fun outcome done => ⟨failure, (Except.ok.inj done).symm⟩⟩
  | fault fault => exact ⟨_, rfl, nofun⟩

/-! What records say. -/

section

variable [Platform]

/-- The members of a record name the coordinate, and it is looked for in the
given repositories, if there are any. -/
structure NamedBy (repos : List String) (members : List (String × Json)) (coordinate : Coordinate) :
    Prop where
  group : Shows members .group coordinate.group
  artifact : Shows members .artifact coordinate.artifact
  version : Shows members .version coordinate.version
  repos : coordinate.repos =
    (if repos.isEmpty then [centralRepository] else repos).map Coordinate.normalizeRepo

/-- The record is an object that names the coordinate. -/
def Names (repos : List String) (record : Octets) (coordinate : Coordinate) : Prop :=
  ∃ members, Json.ofOctets? .strict record = some (.object members) ∧
    NamedBy repos members coordinate

/-- The record names the coordinate and has a timestamp. -/
def Accepted (repos : List String) (record : Octets) (coordinate : Coordinate) (timestamp : Int) :
    Prop :=
  ∃ members date, Json.ofOctets? .strict record = some (.object members) ∧
    NamedBy repos members coordinate ∧ Json.member? "date" members = some date ∧
    Timestamp.ofJson date = .ok timestamp

theorem ofRecord_eq_ok_iff {members : List (String × Json)} :
    Coordinate.ofRecord members = .ok coordinate ↔ NamedBy [] members coordinate := by
  constructor
  · intro read
    obtain ⟨group, first, read⟩ := bind_eq_ok.1 read
    obtain ⟨artifact, second, read⟩ := bind_eq_ok.1 read
    obtain ⟨version, third, read⟩ := bind_eq_ok.1 read
    obtain ⟨rfl, rfl, rfl, same⟩ := make_eq_ok_iff.1 (mapError_eq_ok.1 read)
    exact ⟨recordPart_eq_ok_iff.1 first, recordPart_eq_ok_iff.1 second,
      recordPart_eq_ok_iff.1 third, same⟩
  · rintro ⟨group, artifact, version, same⟩
    exact bind_eq_ok.2 ⟨_, recordPart_eq_ok_iff.2 group,
      bind_eq_ok.2 ⟨_, recordPart_eq_ok_iff.2 artifact,
        bind_eq_ok.2 ⟨_, recordPart_eq_ok_iff.2 version,
          mapError_eq_ok.2 (make_eq_ok_iff.2 ⟨rfl, rfl, rfl, same⟩)⟩⟩⟩

/-- Reading a record yields the coordinate that its members name, and no other. -/
theorem recordCoordinate_eq_ok_iff {members : List (String × Json)} :
    recordCoordinate repos (.object members) = .ok coordinate ↔
      NamedBy repos members coordinate := by
  constructor
  · intro read
    cases made : Coordinate.ofRecord members with
    | error defect =>
      rw [recordCoordinate, made] at read
      cases read
    | ok other =>
      obtain rfl : other.withRepos repos = coordinate := by
        simpa only [recordCoordinate, made, Except.ok.injEq] using read
      obtain ⟨group, artifact, version, same⟩ := ofRecord_eq_ok_iff.1 made
      cases repos with
      | nil => exact ⟨group, artifact, version, same⟩
      | cons repo repos => exact ⟨group, artifact, version, rfl⟩
  · rintro ⟨group, artifact, version, same⟩
    have made : Coordinate.ofRecord members =
        .ok { coordinate with repos := [centralRepository].map Coordinate.normalizeRepo } :=
      ofRecord_eq_ok_iff.2 ⟨group, artifact, version, rfl⟩
    rw [recordCoordinate, made]
    refine congrArg Except.ok ?_
    obtain ⟨_, _, _, _, _, _, _⟩ := coordinate
    obtain rfl := same
    cases repos <;> rfl

theorem recordDate_eq_ok_iff {members : List (String × Json)} :
    recordDate coordinate (.object members) = .ok timestamp ↔
      ∃ date, Json.member? "date" members = some date ∧ Timestamp.ofJson date = .ok timestamp := by
  cases found : Json.member? "date" members <;> simp [recordDate, found, mapError_eq_ok]

theorem generate_eq_ok_iff :
    (generate fetcher analyzer files coordinate timestamp).result = .ok doc ↔
      Made fetcher analyzer files coordinate timestamp doc := by
  simp only [generate, generateForJar, analyze, fetchJar, Trace.result_bind, bind_eq_ok,
    Trace.ofExcept, mapError_eq_ok, fetchFirst_eq_ok_iff, resolveDependencies_eq_ok_iff]
  constructor
  · rintro ⟨depset, resolved, jar, served, raw, analyzed, graph, assembled, built⟩
    exact ⟨depset, jar, raw, graph, resolved, served, analyzed, assembled, built⟩
  · rintro ⟨depset, jar, raw, graph, resolved, served, analyzed, assembled, built⟩
    exact ⟨depset, resolved, jar, served, raw, analyzed, graph, assembled, built⟩

theorem generate_steps (fetcher : Fetcher) (analyzer : Analyzer) (files : FileTree)
    (coordinate : Coordinate) (timestamp : Int) :
    Steps fetcher coordinate (generate fetcher analyzer files coordinate timestamp).events := by
  obtain ⟨poms, initial, asked⟩ := resolveDependencies_events fetcher coordinate
  cases resolved : (resolveDependencies fetcher coordinate).result with
  | error stop =>
    rw [generate, Trace.events_bind_of_error resolved, asked]
    exact .pom initial
  | ok depset =>
    have known := resolveDependencies_eq_ok_iff.1 resolved
    obtain ⟨jars, further, askedThen⟩ :=
      exists_asked fetcher ("JAR for " ++ coordinate.text) [] (jarUrls coordinate)
    rw [generate, Trace.events_bind_of_ok resolved, asked]
    cases served : (fetchJar fetcher coordinate).result with
    | error stop =>
      rw [Trace.events_bind_of_error served, fetchJar, ← jarUrls, askedThen]
      exact .jar initial known further
    | ok jar =>
      rw [Trace.events_bind_of_ok served, generateForJar_events, fetchJar, ← jarUrls, askedThen,
        ← List.append_assoc]
      exact .analysis initial known further (fetchFirst_eq_ok_iff.1 served)

/-! What becomes of records. -/

theorem Accepted.names (accepted : Accepted repos record coordinate timestamp) :
    Names repos record coordinate := by
  obtain ⟨members, date, read, named, -, -⟩ := accepted
  exact ⟨members, read, named⟩

theorem Names.unique {other : Coordinate} (names : Names repos record coordinate)
    (names' : Names repos record other) : coordinate = other := by
  obtain ⟨members, read, named⟩ := names
  obtain ⟨members', read', named'⟩ := names'
  obtain rfl : members = members' := by simpa using read.symm.trans read'
  exact Except.ok.inj
    ((recordCoordinate_eq_ok_iff.2 named).symm.trans (recordCoordinate_eq_ok_iff.2 named'))

/-- A record that names no coordinate is rejected under none. -/
theorem processRecord_unnamed (fetcher : Fetcher) (analyzer : Analyzer) (files : FileTree)
    (unnamed : ∀ coordinate, ¬ Names repos record coordinate) :
    ∃ result, processRecord fetcher analyzer files repos record = .ofExcept result ∧
      ∀ outcome, result = .ok outcome →
        ∃ failure, outcome = rejected unknownCoordinate failure := by
  unfold processRecord
  cases read : Json.ofOctets? .strict record with
  | none => exact ⟨_, rfl, fun outcome done => ⟨_, (Except.ok.inj done).symm⟩⟩
  | some value =>
    dsimp only
    cases named : recordCoordinate repos value with
    | error stop => exact turnedDown_eq unknownCoordinate stop
    | ok coordinate =>
      cases value with
      | object members =>
        exact absurd ⟨members, read, recordCoordinate_eq_ok_iff.1 named⟩ (unnamed coordinate)
      | _ => cases named

/-- A record that names a coordinate and has no timestamp is rejected under the
coordinate. -/
theorem processRecord_undated (names : Names repos record coordinate)
    (undated : ∀ timestamp, ¬ Accepted repos record coordinate timestamp) :
    ∃ result, processRecord fetcher analyzer files repos record = .ofExcept result ∧
      ∀ outcome, result = .ok outcome → ∃ failure, outcome = rejected coordinate.text failure := by
  obtain ⟨members, read, named⟩ := names
  simp only [processRecord, read, recordCoordinate_eq_ok_iff.2 named]
  cases dated : recordDate coordinate (.object members) with
  | error stop => exact turnedDown_eq coordinate.text stop
  | ok timestamp =>
    obtain ⟨date, found, stamped⟩ := recordDate_eq_ok_iff.1 dated
    exact absurd ⟨members, date, read, named, found, stamped⟩ (undated timestamp)

theorem processRecord_accepted (accepted : Accepted repos record coordinate timestamp) :
    processRecord fetcher analyzer files repos record =
      processCoordinate fetcher analyzer files coordinate timestamp := by
  obtain ⟨members, date, read, named, dated, stamped⟩ := accepted
  rw [processRecord_reads ⟨members, read, recordCoordinate_eq_ok_iff.2 named, dated⟩, stamped]

/-! Accounts of outcomes. -/

/-- What an outcome says of the record, and what others see of the work. -/
structure Accounted (fetcher : Fetcher) (analyzer : Analyzer) (files : FileTree)
    (repos : List String) (record : Octets) (outcome : Outcome) (events : List Event) : Prop where
  sound : Sound (fun doc => ∃ coordinate timestamp, Accepted repos record coordinate timestamp ∧
    Made fetcher analyzer files coordinate timestamp doc) outcome
  /-- No coordinate is given exactly if none can be read. -/
  unknown : outcome.coordinate = unknownCoordinate ↔
    ∀ coordinate, ¬ Names repos record coordinate
  label : ∀ coordinate, Names repos record coordinate → outcome.coordinate = coordinate.text
  /-- Nothing is done for a record that is rejected. -/
  quiet : (∀ coordinate timestamp, ¬ Accepted repos record coordinate timestamp) → events = []
  steps : ∀ coordinate timestamp, Accepted repos record coordinate timestamp →
    Steps fetcher coordinate events

/-- The outcome for a record that is rejected. -/
theorem accounted_rejected {label : String} (failure : Failure)
    (unknown : label = unknownCoordinate ↔ ∀ coordinate, ¬ Names repos record coordinate)
    (known : ∀ coordinate, Names repos record coordinate → label = coordinate.text)
    (undated : ∀ coordinate timestamp, ¬ Accepted repos record coordinate timestamp) :
    Accounted fetcher analyzer files repos record (rejected label failure) [] where
  sound := sound_ofFailure _ _ _ _
  unknown := unknown
  label := known
  quiet _ := rfl
  steps coordinate timestamp accepted := absurd accepted (undated coordinate timestamp)

theorem Accepted.unique {other : Coordinate} {otherTime : Int}
    (accepted : Accepted repos record coordinate timestamp)
    (accepted' : Accepted repos record other otherTime) :
    coordinate = other ∧ timestamp = otherTime := by
  obtain ⟨members, date, read, named, found, stamped⟩ := accepted
  obtain ⟨members', date', read', named', found', stamped'⟩ := accepted'
  obtain rfl : members = members' := by simpa using read.symm.trans read'
  obtain rfl := Option.some.inj (found.symm.trans found')
  exact ⟨Names.unique ⟨members, read, named⟩ ⟨members, read, named'⟩,
    Except.ok.inj (stamped.symm.trans stamped')⟩

/-- The outcome for a record that is accepted. -/
theorem accounted_processed {outcome : Outcome}
    (accepted : Accepted repos record coordinate timestamp)
    (done : (processCoordinate fetcher analyzer files coordinate timestamp).result = .ok outcome) :
    Accounted fetcher analyzer files repos record outcome
      (processCoordinate fetcher analyzer files coordinate timestamp).events where
  sound := by
    rcases outcomeOf_eq_ok.1 done with ⟨doc, generated, rfl⟩ | ⟨failure, -, rfl⟩
    · exact sound_ofDocument _ ⟨coordinate, timestamp, accepted, generate_eq_ok_iff.1 generated⟩
    · exact sound_ofFailure _ _ _ _
  unknown := by
    rw [outcomeOf_coordinate done]
    exact ⟨fun unknown => absurd unknown (text_ne_unknownCoordinate coordinate),
      fun unnamed => absurd accepted.names (unnamed coordinate)⟩
  label other names := by
    obtain rfl := names.unique accepted.names
    exact outcomeOf_coordinate done
  quiet none := absurd accepted (none coordinate timestamp)
  steps other otherTime accepted' := by
    obtain ⟨rfl, rfl⟩ := accepted.unique accepted'
    rw [processCoordinate, outcomeOf_events]
    exact generate_steps fetcher analyzer files coordinate timestamp

/-- **Every outcome accounts for its record.** It has no document exactly if it
is a failed one, and then it gives a kind and a message. Otherwise the document
is built from what the record names, from the dependencies in the first build
file that is served and from the raw call graph of the first classes that are
served, and the status says whether there are calls in it. The outcome stands
under the coordinate that the record names, if it names one. For a record that is
rejected nothing is asked for. For any other, build files are asked for in order,
then classes if the dependencies are known, and there is at most one analysis,
once the classes are there. -/
theorem processRecord_accounted {outcome : Outcome}
    (done : (processRecord fetcher analyzer files repos record).result = .ok outcome) :
    Accounted fetcher analyzer files repos record outcome
      (processRecord fetcher analyzer files repos record).events := by
  -- Records are parted by how far they can be read: to a coordinate, and to a
  -- timestamp.
  by_cases named : ∃ coordinate, Names repos record coordinate
  · obtain ⟨coordinate, names⟩ := named
    by_cases dated : ∃ timestamp, Accepted repos record coordinate timestamp
    · obtain ⟨timestamp, accepted⟩ := dated
      rw [processRecord_accepted accepted] at done ⊢
      exact accounted_processed accepted done
    · have undated : ∀ timestamp, ¬ Accepted repos record coordinate timestamp :=
        fun timestamp accepted => dated ⟨timestamp, accepted⟩
      obtain ⟨result, same, only⟩ := processRecord_undated names undated
      rw [same] at done ⊢
      obtain ⟨failure, rfl⟩ := only outcome done
      exact accounted_rejected failure
        ⟨fun unknown => absurd unknown (text_ne_unknownCoordinate coordinate),
          fun unnamed => absurd names (unnamed coordinate)⟩
        (fun other names' => names.unique names' ▸ rfl)
        fun other timestamp accepted =>
          undated timestamp (names.unique accepted.names ▸ accepted)
  · have unnamed : ∀ coordinate, ¬ Names repos record coordinate :=
      fun coordinate names => named ⟨coordinate, names⟩
    obtain ⟨result, same, only⟩ := processRecord_unnamed fetcher analyzer files unnamed
    rw [same] at done ⊢
    obtain ⟨failure, rfl⟩ := only outcome done
    exact accounted_rejected failure ⟨fun _ => unnamed, fun _ => rfl⟩
      (fun coordinate names => absurd names (unnamed coordinate))
      fun coordinate timestamp accepted => unnamed coordinate accepted.names

end

section

open scoped Platform

/-- The record of an artifact. -/
def oneRecord : Octets := Text.encodeUtf8 (recordOf "g" "a" "1").toList

/-- The work on it, where every repository has files and there is one method. -/
def oneWork : Trace Outcome :=
  processRecord (servedEverywhere "<project/>") findingOne ⟨[], ∅⟩ [] oneRecord

theorem processRecord_accounted_one : ∃ outcome : Outcome,
    oneWork.result = .ok outcome ∧ outcome.status = .ok ∧
    Accounted (servedEverywhere "<project/>") findingOne ⟨[], ∅⟩ [] oneRecord outcome
      oneWork.events := by
  have status : oneWork.result.toOption.map Outcome.status = some .ok := by decide +kernel
  obtain ⟨outcome, done, ok⟩ := Option.map_eq_some_iff.1 status
  have done := toOption_eq_some_iff.1 done
  exact ⟨outcome, done, ok, processRecord_accounted done⟩

end

end Pipeline

end CallGraph
