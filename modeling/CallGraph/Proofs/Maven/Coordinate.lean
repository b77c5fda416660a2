import CallGraph.Proofs.Pipeline.Account
import CallGraph.Proofs.Revision.FileName

/-! Coordinates as texts. A coordinate is printed as its three parts with colons
between them, and the parts are free of blanks, so it is read as it is printed if
they are free of colons as well. The parts of a text that is read are; the parts of
a record need not be, and then the printed coordinate is that of another artifact
or of none. -/
namespace CallGraph
open Text

namespace Text

theorem trimBy_of_free {leaveOut : Char → Bool} {cs : List Char}
    (free : ∀ c ∈ cs, leaveOut c = false) : trimBy leaveOut cs = cs := by
  have kept : ∀ ds : List Char, (∀ c ∈ ds, leaveOut c = false) → ds.dropWhile leaveOut = ds := by
    intro ds free
    cases ds with
    | nil => rfl
    | cons d ds => rw [List.dropWhile_cons_of_neg (by simp [free d List.mem_cons_self])]
  rw [trimBy, kept cs free, kept cs.reverse fun c mem => free c (List.mem_reverse.1 mem),
    List.reverse_reverse]

end Text

namespace Maven.Coordinate
open Listing Pipeline

variable {coordinate other : Coordinate}

/-- The coordinates name the same artifact, wherever they look for it. -/
structure SameArtifact (coordinate other : Coordinate) : Prop where
  group : coordinate.group = other.group
  artifact : coordinate.artifact = other.artifact
  version : coordinate.version = other.version

/-- The parts, in the order in which they are printed. -/
def parts (coordinate : Coordinate) : List String :=
  [coordinate.group, coordinate.artifact, coordinate.version]

theorem sameArtifact_iff : SameArtifact coordinate other ↔ coordinate.parts = other.parts := by
  simp only [parts, List.cons.injEq, and_true]
  exact ⟨fun same => ⟨same.group, same.artifact, same.version⟩,
    fun ⟨group, artifact, version⟩ => ⟨group, artifact, version⟩⟩

theorem toList_text (coordinate : Coordinate) :
    coordinate.text.toList = [':'].intercalate (coordinate.parts.map String.toList) := by
  simp [text, parts, List.intercalate]

/-- A printed coordinate is free of blanks, since its parts are. -/
theorem isBlank_of_mem_text {c : Char} (mem : c ∈ coordinate.text.toList) : isBlank c = false := by
  simp only [text, String.toList_append, List.mem_append] at mem
  rcases mem with (((inGroup | colon) | inArtifact) | colon) | inVersion
  · exact (char_of_isPart coordinate.group_ok inGroup).1
  · obtain rfl := List.mem_singleton.1 colon
    decide
  · exact (char_of_isPart coordinate.artifact_ok inArtifact).1
  · obtain rfl := List.mem_singleton.1 colon
    decide
  · exact (char_of_isPart coordinate.version_ok inVersion).1

/-! ## Reading a text -/

/-- A text is read as the coordinate if its fields are the parts; one more field
before the version is passed over. -/
theorem parse_eq_ok_iff {text : String} : parse text = .ok coordinate ↔
    coordinate.repos = [centralRepository].map normalizeRepo ∧
      ((fields ':' (trimBy isBlank text.toList)).map String.ofList = coordinate.parts ∨
        ∃ packaging, (fields ':' (trimBy isBlank text.toList)).map String.ofList =
          [coordinate.group, coordinate.artifact, packaging, coordinate.version]) := by
  rw [parse]
  split
  · next group artifact version read =>
    rw [make_eq_ok_iff, read]
    simp only [parts, List.cons.injEq, reduceCtorEq, and_true, and_false, exists_false, or_false]
    tauto
  · next group artifact packaging version read =>
    rw [make_eq_ok_iff, read]
    simp only [parts, List.cons.injEq, reduceCtorEq, and_true, and_false, false_or]
    tauto
  · next three four =>
    simp only [reduceCtorEq, false_iff, not_and, not_or, not_exists]
    exact fun _ => ⟨fun same => three _ _ _ same, fun packaging same => four _ _ _ _ same⟩

/-- Colons separate the fields of a text, so there are none in the parts. -/
theorem avoids_of_parse {text : String} (read : parse text = .ok coordinate) :
    coordinate.Avoids ':' := by
  have free : ∀ part ∈ (fields ':' (trimBy isBlank text.toList)).map String.ofList,
      ':' ∉ part.toList := by
    intro part mem
    obtain ⟨field, listed, rfl⟩ := List.mem_map.1 mem
    rw [String.toList_ofList]
    exact sep_not_mem_fields listed
  obtain ⟨-, three | ⟨packaging, four⟩⟩ := parse_eq_ok_iff.1 read
  · rw [three] at free
    exact ⟨free _ (by simp [parts]), free _ (by simp [parts]), free _ (by simp [parts])⟩
  · rw [four] at free
    exact ⟨free _ (by simp), free _ (by simp), free _ (by simp)⟩

theorem fields_text (avoids : coordinate.Avoids ':') :
    fields ':' coordinate.text.toList = coordinate.parts.map String.toList := by
  rw [toList_text]
  refine fields_intercalate (by simp [parts]) ?_
  obtain ⟨group, artifact, version⟩ := avoids
  simpa [parts] using ⟨group, artifact, version⟩

/-- The artifact is printed as it is read, to be looked for where no repository
is named. -/
theorem parse_text (avoids : coordinate.Avoids ':') : parse coordinate.text =
    .ok { coordinate with repos := [centralRepository].map normalizeRepo } := by
  refine parse_eq_ok_iff.2 ⟨rfl, .inl ?_⟩
  rw [trimBy_of_free fun c mem => isBlank_of_mem_text mem, fields_text avoids, List.map_map]
  simp [parts]

/-- A coordinate has two colons where it is printed, and those in its parts. -/
theorem avoids_iff_count :
    coordinate.Avoids ':' ↔ coordinate.text.toList.count ':' = 2 := by
  have counted : coordinate.text.toList.count ':' = coordinate.group.toList.count ':' +
      coordinate.artifact.toList.count ':' + coordinate.version.toList.count ':' + 2 := by
    simp [text, List.count_append]
    omega
  rw [counted, Avoids, ← List.count_eq_zero, ← List.count_eq_zero, ← List.count_eq_zero]
  omega

theorem sameArtifact_of_text_eq (avoids : coordinate.Avoids ':')
    (same : other.text = coordinate.text) : SameArtifact other coordinate := by
  have avoids' : other.Avoids ':' := by rwa [avoids_iff_count, same, ← avoids_iff_count]
  have fields := fields_text avoids'
  rw [same, fields_text avoids] at fields
  exact sameArtifact_iff.2 (List.map_injective_iff.2 (fun _ _ => String.toList_inj.1) fields.symm)

/-- **A coordinate without colons in its parts identifies its artifact.** It is read
back as the same artifact exactly if it has none, and then no other artifact is
printed like it. The product comes apart at its first colon exactly if the group has
none, and then the name of the file has the artifact before the group. A coordinate
that is read from a text has no colons in its parts; one that is read from a record
has those that are in its members. -/
theorem text_identifies [Platform] (coordinate : Coordinate) :
    ((∃ read, parse coordinate.text = .ok read ∧ SameArtifact read coordinate) ↔
      coordinate.Avoids ':') ∧
    (coordinate.Avoids ':' → ∀ other : Coordinate, other.text = coordinate.text →
      SameArtifact other coordinate) ∧
    (cutFirst? ':' coordinate.product.toList =
      some (coordinate.group.toList, coordinate.artifact.toList) ↔
        ':' ∉ coordinate.group.toList) ∧
    (':' ∉ coordinate.group.toList →
      Revision.fileName coordinate.product coordinate.version = coordinate.joined ++ ".json") ∧
    (∀ text, parse text = .ok coordinate → coordinate.Avoids ':') ∧
    ∀ members, ofRecord members = .ok coordinate → (coordinate.Avoids ':' ↔
      ∀ part value, Json.member? (Part.name part) members = some value →
        ':' ∉ value.asText.toList) := by
  refine ⟨⟨?_, ?_⟩, fun avoids other => sameArtifact_of_text_eq avoids, cut_product,
    fileName_eq, fun text => avoids_of_parse, ?_⟩
  · rintro ⟨read, parsed, same⟩
    have avoids := avoids_of_parse parsed
    rwa [Avoids, same.group, same.artifact, same.version] at avoids
  · intro avoids
    exact ⟨_, parse_text avoids, rfl, rfl, rfl⟩
  · intro members named
    obtain ⟨⟨group, atGroup, -, sameGroup⟩, ⟨artifact, atArtifact, -, sameArtifact⟩,
      ⟨version, atVersion, -, sameVersion⟩, -⟩ := ofRecord_eq_ok_iff.1 named
    rw [Avoids, ← sameGroup, ← sameArtifact, ← sameVersion]
    constructor
    · rintro ⟨groupFree, artifactFree, versionFree⟩ part value found
      cases part with
      | group => rwa [← Option.some.inj (atGroup.symm.trans found)]
      | artifact => rwa [← Option.some.inj (atArtifact.symm.trans found)]
      | version => rwa [← Option.some.inj (atVersion.symm.trans found)]
    · intro free
      exact ⟨free .group group atGroup, free .artifact artifact atArtifact,
        free .version version atVersion⟩

/-- The members of a record of version 1. -/
def versionOneMembers (group artifact : String) : List (String × Json) :=
  [("groupId", .string group), ("artifactId", .string artifact), ("version", .string "1")]

def versionOne (group artifact : String) (parts_ok : ∀ part ∈ [group, artifact, "1"],
    isPart part = true) : Coordinate :=
  ⟨group, artifact, "1", [centralRepository], parts_ok group (by simp), parts_ok artifact (by simp),
    parts_ok "1" (by simp)⟩

section

open scoped Platform

/-- Two records with a colon in one of their parts are accepted and printed alike,
and the text is read as a third artifact. The product of the first comes apart
inside its group, and so does the name of its file. -/
theorem text_ambiguous : ∃ first second read : Coordinate,
    ofRecord (versionOneMembers "a:b" "c") = .ok first ∧
    ofRecord (versionOneMembers "a" "b:c") = .ok second ∧
    first.text = second.text ∧ parse first.text = .ok read ∧ ¬ SameArtifact first second ∧
    ¬ SameArtifact read first ∧
    cutFirst? ':' first.product.toList = some ("a".toList, "b:c".toList) ∧
    Revision.fileName first.product first.version ≠ first.joined ++ ".json" := by
  refine ⟨versionOne "a:b" "c" (by decide), versionOne "a" "b:c" (by decide),
    versionOne "a" "b" (by decide),
    toOption_eq_some_iff.1 (by decide +kernel), toOption_eq_some_iff.1 (by decide +kernel),
    by decide, toOption_eq_some_iff.1 (by decide +kernel), ?_, ?_, by decide, by decide⟩
  · intro same
    exact absurd same.group (by decide)
  · intro same
    exact absurd same.group (by decide)

end

end Maven.Coordinate
end CallGraph
