import CallGraph.Proofs.Pipeline.Course

/-! The files that a batch leaves in its directory. Writing a document leaves
the files of other documents alone, so the file of each document is there in the
end, provided that no later one has the same name. Names are joined from the
parts of coordinates, so distinct artifacts can share one, and an artifact with
a slash in its name has its file somewhere else. -/
namespace CallGraph
open FileTree Listing

namespace Revision

variable {doc : Revision} {dir : FilePath} {before after : FileTree} {space next : Workspace}

/-- The place of a document's file. -/
def placeIn (doc : Revision) (dir : FilePath) (cwd : List String) : List String :=
  ((doc.pathIn dir).resolve cwd).segments

/-- The file of the document is there, with the document in it. -/
def IsWritten (doc : Revision) (dir : FilePath) (files : FileTree) : Prop :=
  ∃ contents, doc.fileContents = .ok contents ∧ files.read (doc.pathIn dir) = .ok contents

theorem IsWritten.guarded (written : doc.IsWritten dir before)
    (guards : Guards (doc.placeIn dir before.cwd) before after) : doc.IsWritten dir after := by
  obtain ⟨contents, made, read⟩ := written
  exact ⟨contents, made, guards.read read⟩

/-- What is written to a document's file is read as the document. -/
theorem ofJson_fileContents {contents : Octets} (made : doc.fileContents = .ok contents) :
    (Json.ofOctets? .strict contents).map ofJson = some (.ok doc) := by
  have fits : ∀ i ∈ doc.integers, Json.fitsDocument i = true := by
    intro i mem
    by_contra large
    obtain ⟨e, refused⟩ := fileContents_eq_error.2 ⟨i, mem, fun held =>
      large ((fitsDocument_iff i).2 held)⟩
    cases made.symm.trans refused
  obtain ⟨text, rendered, back⟩ := ofOctets?_render fits .indented
    (show ∀ c ∈ ([] : List Char), Json.isSpace c = true by simp)
  obtain ⟨text', rendered', same⟩ := bind_eq_ok.1 made
  obtain rfl := Except.ok.inj (rendered'.symm.trans rendered)
  obtain rfl := Except.ok.inj same
  rwa [List.append_nil] at back

/-- One file holds one document. -/
theorem IsWritten.unique {other : Revision} (written : doc.IsWritten dir after)
    (written' : other.IsWritten dir after) (same : doc.pathIn dir = other.pathIn dir) :
    doc = other := by
  obtain ⟨contents, made, read⟩ := written
  obtain ⟨contents', made', read'⟩ := written'
  rw [same] at read
  obtain rfl := Except.ok.inj (read.symm.trans read')
  have back := (ofJson_fileContents made).symm.trans (ofJson_fileContents made')
  exact Except.ok.inj (Option.some.inj back)

/-- Writing a document to its file leaves what stands anywhere else alone. -/
theorem writeFile_isWritten [Platform] (wrote : doc.writeFile dir space = .ok () next) :
    next.files.cwd = space.files.cwd ∧ doc.IsWritten dir next.files ∧
      ∀ place, place ≠ doc.placeIn dir space.files.cwd →
        Guards place space.files next.files := by
  obtain ⟨made, contents, ready, fits, written, -⟩ := writeFile_eq_ok.1 wrote
  have ensured := ((onlyDirectories_establish dir).of_ok ready).guards
  have cwd : made.cwd = space.files.cwd := (ensured []).cwd
  obtain ⟨same, read, others⟩ := write_eq_ok written
  refine ⟨same.trans cwd, ⟨contents, fits, read⟩, ?_⟩
  intro place other
  refine (ensured place).trans (others place ?_)
  rw [cwd]
  exact other

end Revision

namespace Pipeline
open Maven (Fetcher Coordinate)

/-! Any way to process records. -/

/-- The document that has been handed on without being refused. -/
def Entry.handed? (entry : Entry) : Option Revision := entry.reported.toHand?

section Runs

variable [Platform] {process : Workspace → Octets → Trace Outcome} {dir : FilePath}
  {space next final : Workspace} {lines : List String} {entries : List Entry}
  {outcome reported : Outcome} {place : List String}

theorem writeTo_eq_ok {doc : Revision} (wrote : writeTo dir doc space = .ok () next) :
    doc.writeFile dir space = .ok () next := by
  obtain ⟨_, between, written, done⟩ :=
    Attempt.bind_eq_ok.1 (Attempt.adaptExcept_eq_ok.1 wrote)
  cases done
  exact written

/-- One document is written, or nothing is done but that directories are made. -/
theorem deliver_writeTo
    (delivered : deliver (some (writeTo dir)) outcome space = .ok reported next) :
    (Entry.handed? ⟨outcome, reported⟩ = none ∧ OnlyDirectories space.files next.files) ∨
      ∃ doc, Entry.handed? ⟨outcome, reported⟩ = some doc ∧
        doc.writeFile dir space = .ok () next := by
  rcases deliver_eq_ok.1 delivered with ⟨given, rfl, rfl⟩ | ⟨doc, given, taken, rfl⟩ |
    ⟨doc, failure, given, refused, system, rfl⟩
  · exact .inl ⟨given, .refl space.files⟩
  · exact .inr ⟨doc, given, writeTo_eq_ok taken⟩
  · obtain ⟨e, refused, -⟩ := writeTo_eq_error.1 refused
    exact .inl ⟨rfl, (Revision.writeFile_untouched refused).files⟩

/-- What stands at a place stays if no document is written to it. -/
theorem Course.guards (course : Course process (some (writeTo dir)) space lines entries final)
    (others : ∀ doc ∈ entries.filterMap Entry.handed?, doc.placeIn dir space.files.cwd ≠ place) :
    Guards place space.files final.files := by
  induction course with
  | done space => exact .refl place space.files
  | blank blank rest ih => exact ih others
  | record nonblank processed delivered rest ih =>
    rcases deliver_writeTo delivered with ⟨given, only⟩ | ⟨doc, given, wrote⟩
    · rw [List.filterMap_cons_none given] at others
      refine (only.guards place).trans (ih ?_)
      rwa [only.cwd]
    · rw [List.filterMap_cons_some given] at others
      obtain ⟨cwd, -, alone⟩ := Revision.writeFile_isWritten wrote
      have elsewhere := others doc List.mem_cons_self
      refine (alone place elsewhere.symm).trans (ih ?_)
      rw [cwd]
      intro later mem
      exact others later (List.mem_cons_of_mem doc mem)

/-- If all documents have places of their own, the files of all of them are
there in the end. The first one is written at once, and the rest of the course
guards it; the others are there by induction. -/
theorem Course.written (course : Course process (some (writeTo dir)) space lines entries final)
    (distinct : ((entries.filterMap Entry.handed?).map fun doc =>
      doc.placeIn dir space.files.cwd).Nodup) :
    ∀ doc ∈ entries.filterMap Entry.handed?, doc.IsWritten dir final.files := by
  induction course with
  | done space => simp
  | blank blank rest ih => exact ih distinct
  | record nonblank processed delivered rest ih =>
    rcases deliver_writeTo delivered with ⟨given, only⟩ | ⟨doc, given, wrote⟩
    · rw [List.filterMap_cons_none given] at distinct ⊢
      rw [← only.cwd] at distinct
      exact ih distinct
    · rw [List.filterMap_cons_some given] at distinct ⊢
      rw [List.map_cons, List.nodup_cons] at distinct
      obtain ⟨cwd, written, -⟩ := Revision.writeFile_isWritten wrote
      rw [← cwd] at distinct
      intro found mem
      rcases List.mem_cons.1 mem with rfl | mem
      · refine written.guarded (rest.guards ?_)
        intro later mem same
        exact distinct.1 (List.mem_map.2 ⟨later, mem, same⟩)
      · exact ih distinct.2 found mem

end Runs

/-! Records of artifacts in repositories. -/

/-- What is handed on without being refused is the document of the outcome. -/
theorem document_of_handed {σ : Type} {delivery : Delivery σ} {world next : σ}
    {outcome reported : Outcome} {doc : Revision}
    (delivered : deliver (some delivery) outcome world = .ok reported next)
    (handed : reported.toHand? = some doc) : outcome.document = some doc := by
  rcases deliver_eq_ok.1 delivered with ⟨given, -, rfl⟩ | ⟨_, given, -, rfl⟩ |
    ⟨_, _, -, -, -, rfl⟩
  · cases given.symm.trans handed
  · unfold Outcome.toHand? at handed
    split at handed
    · exact handed
    · cases handed
  · cases handed

/-- The places of documents are told from the joined coordinates. -/
theorem map_placeIn {dir : FilePath} {docs : List Revision} {coordinates : List Coordinate}
    {cwd : List String}
    (same : List.Forall₂ (fun (doc : Revision) (coordinate : Coordinate) =>
      doc.product = coordinate.product ∧ doc.version = coordinate.version) docs coordinates)
    (plain : ∀ coordinate ∈ coordinates, coordinate.Avoids '/' ∧ coordinate.Avoids ':') :
    docs.map (fun doc => doc.placeIn dir cwd) =
      (coordinates.map Coordinate.joined).map fun name =>
        (dir.resolve cwd).segments ++ [name ++ ".json"] := by
  induction same with
  | nil => rfl
  | @cons doc coordinate docs coordinates names rest ih =>
    obtain ⟨slash, colon⟩ := plain coordinate List.mem_cons_self
    have free : '/' ∉ doc.product.toList ∧ '/' ∉ doc.version.toList := by
      rw [names.1, names.2]
      exact Coordinate.avoids_slash_iff.1 slash
    have here : doc.placeIn dir cwd =
        (dir.resolve cwd).segments ++ [coordinate.joined ++ ".json"] := by
      rw [Revision.placeIn, Revision.resolve_pathIn_iff.2 free, names.1, names.2,
        Coordinate.fileName_eq colon.1]
    rw [List.map_cons, List.map_cons, List.map_cons, here,
      ih fun coordinate mem => plain coordinate (List.mem_cons_of_mem _ mem)]

section Records

variable [Platform] {fetcher : Fetcher} {analyzer : Analyzer} {repos : List String}
  {dir : FilePath} {space final : Workspace} {lines : List String} {entries : List Entry}

/-- The coordinate of the record in a line, if the record is accepted: if it
names a coordinate and a timestamp. -/
def accepted? (repos : List String) (line : String) : Option Coordinate :=
  match Json.ofOctets? .strict (Text.encodeUtf8 line.toList) with
  | none => none
  | some record =>
    match recordCoordinate repos record with
    | .error _ => none
    | .ok coordinate =>
      match recordDate coordinate record with
      | .error _ => none
      | .ok _ => some coordinate

/-- The coordinates of the accepted records of a batch. -/
def acceptedCoordinates (repos lines : List String) : List Coordinate :=
  (records lines).filterMap (accepted? repos)

theorem Reads.accepted {line : String} {coordinate : Coordinate} {date : Json} {timestamp : Int}
    (reads : Reads repos (Text.encodeUtf8 line.toList) coordinate date)
    (dated : Timestamp.ofJson date = .ok timestamp) : accepted? repos line = some coordinate := by
  obtain ⟨members, read, named, found⟩ := reads
  simp only [accepted?, read, named, recordDate, found, dated]
  rfl

/-- A document is generated only for the coordinate of an accepted record. -/
theorem accepted_of_document {files : FileTree} {line : String} {outcome : Outcome}
    {doc : Revision}
    (processed : (processRecord fetcher analyzer files repos
      (Text.encodeUtf8 line.toList)).result = .ok outcome)
    (document : outcome.document = some doc) :
    ∃ coordinate, accepted? repos line = some coordinate ∧
      doc.product = coordinate.product ∧ doc.version = coordinate.version := by
  rcases processRecord_eq_ok processed with ⟨_, _, _, rfl⟩ |
    ⟨coordinate, date, timestamp, _, reads, dated, generated, rfl⟩
  · cases document
  · obtain rfl := Option.some.inj document
    exact ⟨coordinate, reads.accepted dated, generate_eq_ok generated⟩

/-- The documents that are handed on are those of some of the accepted
coordinates, in the order of the records. -/
theorem Course.exists_coordinates {delivery : Delivery Workspace}
    (course : Course (fun space => processRecord fetcher analyzer space.files repos)
      (some delivery) space lines entries final) :
    ∃ coordinates, coordinates.Sublist (acceptedCoordinates repos lines) ∧
      List.Forall₂ (fun (doc : Revision) (coordinate : Coordinate) =>
          doc.product = coordinate.product ∧ doc.version = coordinate.version)
        (entries.filterMap Entry.handed?) coordinates := by
  induction course with
  | done space => exact ⟨[], List.nil_sublist _, .nil⟩
  | blank blank rest ih =>
    rw [acceptedCoordinates, records_blank blank]
    exact ih
  | @record _ _ _ line lines entries outcome reported nonblank processed delivered rest ih =>
    obtain ⟨coordinates, some, same⟩ := ih
    rw [acceptedCoordinates, records_record nonblank]
    cases handed : Entry.handed? ⟨outcome, reported⟩ with
    | none =>
      rw [List.filterMap_cons_none handed]
      refine ⟨coordinates, some.trans ?_, same⟩
      exact (List.sublist_cons_self _ _).filterMap _
    | some doc =>
      obtain ⟨coordinate, accepted, names⟩ :=
        accepted_of_document processed (document_of_handed delivered handed)
      rw [List.filterMap_cons_some handed, List.filterMap_cons_some accepted]
      exact ⟨coordinate :: coordinates, some.cons_cons coordinate, .cons names same⟩

/-- An outcome with calls that is reported has a document, which has been handed
on. -/
theorem Course.exists_handed {delivery : Delivery Workspace}
    (course : Course (fun space => processRecord fetcher analyzer space.files repos)
      (some delivery) space lines entries final)
    {outcome : Outcome} (mem : outcome ∈ entries.map Entry.reported)
    (status : outcome.status = .ok) :
    ∃ doc, outcome.document = some doc ∧ doc ∈ entries.filterMap Entry.handed? := by
  obtain ⟨entry, made, rfl⟩ := List.mem_map.1 mem
  obtain ⟨line, -, before, after, processed, delivered⟩ := course.exists_line made
  have same : entry.outcome = entry.reported := by
    rcases deliver_eq_ok.1 delivered with ⟨-, -, same⟩ | ⟨_, -, -, same⟩ |
      ⟨_, _, -, -, -, failed⟩
    · exact same
    · exact same
    · rw [← failed] at status
      cases status
  rw [same] at processed
  obtain ⟨doc, document⟩ := processRecord_exists_document processed status
  refine ⟨doc, document, List.mem_filterMap.2 ⟨entry, made, ?_⟩⟩
  rw [Entry.handed?, Outcome.toHand?, if_pos status, document]

/-- **No output of a batch is lost if its artifacts have names of their own.**
Where no part of an accepted coordinate has a slash or a colon in it, and no two
accepted coordinates are joined to the same name, a batch that goes through
every line leaves the file of each artifact with calls in the directory, with
the artifact's document in it. Coordinates are joined to the same name only if
they are the same, or have an underscore in a group or an artifact. -/
theorem writeBatch_keeps_documents
    (through : (writeBatch fetcher analyzer repos (some dir) space lines).stop = none)
    (plain : ∀ coordinate ∈ acceptedCoordinates repos lines,
      coordinate.Avoids '/' ∧ coordinate.Avoids ':')
    (distinct : ((acceptedCoordinates repos lines).map Coordinate.joined).Nodup) :
    (∀ outcome ∈ (writeBatch fetcher analyzer repos (some dir) space lines).state.report.successes,
      outcome.status = .ok → ∃ doc, outcome.document = some doc ∧
        doc.IsWritten dir
          (writeBatch fetcher analyzer repos (some dir) space lines).state.world.files) ∧
    ∀ coordinate other : Coordinate,
      '_' ∉ coordinate.artifact.toList → '_' ∉ coordinate.group.toList →
      '_' ∉ other.artifact.toList → '_' ∉ other.group.toList →
      coordinate.joined = other.joined →
      coordinate.group = other.group ∧ coordinate.artifact = other.artifact ∧
        coordinate.version = other.version := by
  refine ⟨?_, fun _ _ => Coordinate.joined_inj⟩
  intro outcome success status
  obtain ⟨entries, course, report⟩ := exists_course through
  have reported : outcome ∈ entries.map Entry.reported := by
    have among := congrArg Report.successes report ▸ success
    exact (List.mem_filter.1 among).1
  obtain ⟨doc, document, handed⟩ := course.exists_handed reported status
  refine ⟨doc, document, course.written ?_ doc handed⟩
  obtain ⟨coordinates, some, same⟩ := course.exists_coordinates
  have plainThere := fun coordinate mem => plain coordinate (some.subset mem)
  have distinctThere := distinct.sublist (some.map Coordinate.joined)
  rw [map_placeIn same plainThere]
  refine distinctThere.map ?_
  intro name name' samePlace
  obtain ⟨-, sameName⟩ := List.append_inj' samePlace rfl
  have sameText := List.singleton_inj.1 sameName
  simpa using sameText

end Records

/-! Artifacts written to one directory. -/

section

open scoped Platform

/-- The work on records whose documents are written to a directory. -/
def runWritten (lines : List String) : BatchRun Workspace :=
  writeBatch (servedEverywhere "<project/>") findingOne [] (some ⟨"", ["out"]⟩) emptySpace lines

/-- Two artifacts with names of their own, a blank line, and a record that names
no artifact. -/
def apartLines : List String := [recordOf "b_c" "a" "1", " ", "[]", recordOf "c" "a_b" "2"]

theorem writeBatch_keeps_documents_apart :
    (runWritten apartLines).stop = none ∧
    (∀ coordinate ∈ acceptedCoordinates [] apartLines,
      coordinate.Avoids '/' ∧ coordinate.Avoids ':') ∧
    ((acceptedCoordinates [] apartLines).map Coordinate.joined).Nodup ∧
    ∀ outcome ∈ (runWritten apartLines).state.report.successes, outcome.status = .ok →
      ∃ doc, outcome.document = some doc ∧
        doc.IsWritten ⟨"", ["out"]⟩ (runWritten apartLines).state.world.files := by
  have through : (runWritten apartLines).stop = none :=
    Option.isNone_iff_eq_none.1 (by decide +kernel)
  have plain : ∀ coordinate ∈ acceptedCoordinates [] apartLines,
      coordinate.Avoids '/' ∧ coordinate.Avoids ':' := by decide +kernel
  have distinct : ((acceptedCoordinates [] apartLines).map Coordinate.joined).Nodup := by
    decide +kernel
  unfold runWritten at through ⊢
  obtain ⟨kept, -⟩ := writeBatch_keeps_documents through plain distinct
  exact ⟨through, plain, distinct, kept⟩

/-- Two artifacts that are joined to the same name. -/
def sharingLines : List String := [recordOf "b_c" "a" "1", recordOf "c" "a_b" "1"]

/-- A character that may stand in the parts of coordinates anywhere. -/
def isOrdinary (c : Char) : Bool := c.isAlphanum || c = '_' || c = '-' || c = '.'

/-- Of two artifacts that are joined to the same name, one is lost. -/
theorem writeBatch_overwrites :
    (runWritten sharingLines).stop = none ∧
    ((acceptedCoordinates [] sharingLines).map Coordinate.text).Nodup ∧
    (∀ coordinate ∈ acceptedCoordinates [] sharingLines,
      ∀ part ∈ [coordinate.group, coordinate.artifact, coordinate.version],
        part.toList.all isOrdinary = true) ∧
    ¬ ∀ outcome ∈ (runWritten sharingLines).state.report.successes, outcome.status = .ok →
      ∃ doc, outcome.document = some doc ∧
        doc.IsWritten ⟨"", ["out"]⟩ (runWritten sharingLines).state.world.files := by
  refine ⟨Option.isNone_iff_eq_none.1 (by decide +kernel), by decide +kernel,
    by decide +kernel, ?_⟩
  have ends : (runWritten sharingLines).state.report.successes.map (fun outcome =>
      (outcome.status, outcome.document.map fun doc => (doc.product, doc.version))) =
      [(.ok, some ("b_c:a", "1")), (.ok, some ("c:a_b", "1"))] := by decide +kernel
  intro kept
  have file : ∀ product version, (Status.ok, some (product, version)) ∈
      (runWritten sharingLines).state.report.successes.map (fun outcome =>
        (outcome.status, outcome.document.map fun doc => (doc.product, doc.version))) →
      ∃ doc : Revision, doc.product = product ∧ doc.version = version ∧
        doc.IsWritten ⟨"", ["out"]⟩ (runWritten sharingLines).state.world.files := by
    intro product version mem
    obtain ⟨outcome, success, same⟩ := List.mem_map.1 mem
    obtain ⟨status, names⟩ := Prod.mk.inj same
    obtain ⟨doc, document, written⟩ := kept outcome success status
    rw [document] at names
    obtain ⟨rfl, rfl⟩ := Prod.mk.inj (Option.some.inj names)
    exact ⟨doc, rfl, rfl, written⟩
  obtain ⟨doc, product, version, written⟩ := file "b_c:a" "1" (by simp [ends])
  obtain ⟨other, product', version', written'⟩ := file "c:a_b" "1" (by simp [ends])
  have shared : Revision.fileName "b_c:a" "1" = Revision.fileName "c:a_b" "1" := by
    decide +kernel
  have path : doc.pathIn ⟨"", ["out"]⟩ = other.pathIn ⟨"", ["out"]⟩ := by
    rw [Revision.pathIn, Revision.pathIn, product, version, product', version', shared]
  obtain rfl := written.unique written' path
  exact absurd (product.symm.trans product') (by decide)

end

/-! Where the file of one artifact is. -/

/-- **Only slashes lead out of the directory.** The file of an artifact's
document is the direct child of the directory that the artifact's name says,
exactly if no part of the coordinate has a slash in it. -/
theorem generate_pathIn_iff [Platform] {fetcher : Fetcher} {analyzer : Analyzer} {files : FileTree}
    {coordinate : Coordinate} {timestamp : Int} {doc : Revision}
    (generated : (generate fetcher analyzer files coordinate timestamp).result = .ok doc)
    (dir : FilePath) (cwd : List String) :
    (doc.pathIn dir).resolve cwd = ⟨"/", (dir.resolve cwd).segments ++
        [Revision.fileName coordinate.product coordinate.version]⟩ ↔
      coordinate.Avoids '/' := by
  obtain ⟨product, version⟩ := generate_eq_ok generated
  rw [Coordinate.avoids_slash_iff, ← product, ← version]
  exact Revision.resolve_pathIn_iff

section

open scoped Platform

/-- An artifact whose name is all dots. -/
def dotted : Coordinate :=
  ⟨"org.a..b", "..", "1.0", [Maven.centralRepository], by decide, by decide, by decide⟩

theorem generate_pathIn_iff_dotted : ∃ doc,
    (generate (servedEverywhere "<project/>") findingOne ⟨[], ∅⟩ dotted 0).result = .ok doc ∧
    (doc.pathIn ⟨"", ["..", "out"]⟩).resolve ["work"] =
      ⟨"/", ["out", ".._org.a..b_1.0.json"]⟩ := by
  obtain ⟨doc, made⟩ := Option.isSome_iff_exists.1 (show
    (generate (servedEverywhere "<project/>") findingOne ⟨[], ∅⟩ dotted
      0).result.toOption.isSome = true by decide +kernel)
  have generated := toOption_eq_some_iff.1 made
  refine ⟨doc, generated, ?_⟩
  rw [(generate_pathIn_iff generated _ _).2 (by decide)]
  decide +kernel

/-- An artifact whose name leads upwards. -/
def climbing : Coordinate :=
  ⟨"g", "../x", "1", [Maven.centralRepository], by decide, by decide, by decide⟩

/-- The file of an artifact with a slash in its name can be outside of the
directory. -/
theorem generate_pathIn_climbs : Coordinate.parse "g:../x:1" = .ok climbing ∧
    ∃ doc,
      (generate (servedEverywhere "<project/>") findingOne ⟨[], ∅⟩ climbing 0).result = .ok doc ∧
      ∀ name, (doc.pathIn ⟨"", ["out"]⟩).resolve ["work"] ≠
        ⟨"/", (FilePath.resolve ⟨"", ["out"]⟩ ["work"]).segments ++ [name]⟩ := by
  obtain ⟨doc, made⟩ := Option.isSome_iff_exists.1 (show
    (generate (servedEverywhere "<project/>") findingOne ⟨[], ∅⟩ climbing
      0).result.toOption.isSome = true by decide +kernel)
  have generated := toOption_eq_some_iff.1 made
  obtain ⟨product, version⟩ := generate_eq_ok generated
  refine ⟨toOption_eq_some_iff.1 (by decide +kernel), doc, generated, ?_⟩
  intro name same
  have outside : (doc.pathIn ⟨"", ["out"]⟩).resolve ["work"] =
      ⟨"/", ["work", "x_g_1.json"]⟩ := by
    rw [Revision.pathIn, product, version]
    decide +kernel
  have place := congrArg FilePath.segments (outside.symm.trans same)
  have depth : 2 = 3 := congrArg List.length place
  exact absurd depth (by decide)

end

end Pipeline

end CallGraph
