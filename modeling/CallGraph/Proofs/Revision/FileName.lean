import CallGraph.Maven.Coordinate
import CallGraph.Proofs.FileTree.Resolve
import CallGraph.Revision.Publication

/-! The names of the files that documents are written to. The name of an
artifact's file joins the three parts of its coordinate, and is that of a direct
child of the directory exactly if no part holds a slash. The parts are joined
with underscores, which may also stand in them, so coordinates can share a
name. -/
namespace CallGraph
open Text

namespace Revision

variable {product version : String} {c : Char}

/-- How the name of every file ends. -/
def fileEnding : List Char := ['.', 'j', 's', 'o', 'n']

theorem toList_fileName (product version : String) :
    ∃ cs, (fileName product version).toList = cs ++ fileEnding := by
  unfold fileName
  split
  · exact ⟨(product ++ "_" ++ version).toList, by rw [String.toList_append]; rfl⟩
  · next group artifact _ =>
    refine ⟨(String.ofList artifact ++ "_" ++ String.ofList group ++ "_" ++ version).toList, ?_⟩
    rw [String.toList_append]
    rfl

/-- A short text is not the name of a file. -/
theorem fileName_ne {text : String} (short : text.toList.length < 5) :
    fileName product version ≠ text := by
  rintro rfl
  obtain ⟨cs, ends⟩ := toList_fileName product version
  rw [ends, List.length_append] at short
  exact absurd short (by simp [fileEnding])

/-- The name of a document's file has the characters of the product and of the
version, and besides them only separators and the ending. -/
theorem mem_fileName (other : c ∉ ':' :: '_' :: fileEnding) :
    c ∈ (fileName product version).toList ↔ c ∈ product.toList ∨ c ∈ version.toList := by
  simp only [fileEnding, List.mem_cons, List.not_mem_nil, not_or, or_false] at other
  unfold fileName
  split
  · simp [other]
  · next group artifact cut =>
    obtain ⟨whole, -⟩ := cutFirst?_eq_some cut
    simp only [whole, String.toList_append, String.toList_ofList, List.mem_append, List.mem_cons]
    simp [other, or_comm]

/-- **Where the file of a document is.** It is the direct child of the directory
that its name says exactly if neither the product nor the version has a slash in
it. -/
theorem resolve_pathIn_iff {doc : Revision} {dir : FilePath} {cwd : List String} :
    (doc.pathIn dir).resolve cwd =
        ⟨"/", (dir.resolve cwd).segments ++ [fileName doc.product doc.version]⟩ ↔
      '/' ∉ doc.product.toList ∧ '/' ∉ doc.version.toList := by
  have free : '/' ∉ (fileName doc.product doc.version).toList ↔
      '/' ∉ doc.product.toList ∧ '/' ∉ doc.version.toList := by
    rw [mem_fileName (by decide), not_or]
  rw [← free]
  constructor
  · intro child slash
    obtain ⟨cs, ends⟩ := toList_fileName doc.product doc.version
    exact FilePath.resolve_join_ne (by decide) (by decide) ends slash dir cwd _
      (congrArg FilePath.segments child)
  · intro plain
    have named : FilePath.IsName (fileName doc.product doc.version) := by
      refine ⟨plain, ?_, ?_, ?_⟩ <;> exact fileName_ne (by decide)
    exact named.resolve_join dir cwd

end Revision

namespace Maven.Coordinate

variable {coordinate other : Coordinate}

/-- No part of the coordinate has the character in it. -/
def Avoids (coordinate : Coordinate) (c : Char) : Prop :=
  c ∉ coordinate.group.toList ∧ c ∉ coordinate.artifact.toList ∧ c ∉ coordinate.version.toList

instance (coordinate : Coordinate) (c : Char) : Decidable (coordinate.Avoids c) :=
  inferInstanceAs (Decidable (_ ∧ _ ∧ _))

/-- The name of the artifact's file without its ending: the three parts, the
artifact before its group. -/
def joined (coordinate : Coordinate) : String :=
  coordinate.artifact ++ "_" ++ coordinate.group ++ "_" ++ coordinate.version

theorem mem_product {c : Char} (different : c ≠ ':') : c ∈ coordinate.product.toList ↔
    c ∈ coordinate.group.toList ∨ c ∈ coordinate.artifact.toList := by
  simp [product, different]

/-- Slashes are avoided in the parts just when they are avoided in what names
the file. -/
theorem avoids_slash_iff : coordinate.Avoids '/' ↔
    '/' ∉ coordinate.product.toList ∧ '/' ∉ coordinate.version.toList := by
  rw [Avoids, mem_product (by decide), not_or, and_assoc]

/-- The product of a coordinate comes apart into its group and artifact again, if
there is no colon in the group. -/
theorem cut_product : cutFirst? ':' coordinate.product.toList =
    some (coordinate.group.toList, coordinate.artifact.toList) ↔
      ':' ∉ coordinate.group.toList := by
  constructor
  · intro cut
    exact (cutFirst?_eq_some cut).2
  · intro free
    have whole : coordinate.product.toList =
        coordinate.group.toList ++ ':' :: coordinate.artifact.toList := by simp [product]
    rw [whole, cutFirst?_append free]

theorem fileName_eq (free : ':' ∉ coordinate.group.toList) :
    Revision.fileName coordinate.product coordinate.version = coordinate.joined ++ ".json" := by
  simp [Revision.fileName, cut_product.2 free, joined]

/-- Coordinates that share a name are the same, if no underscore is in their
groups and artifacts. -/
theorem joined_inj (artifact : '_' ∉ coordinate.artifact.toList)
    (group : '_' ∉ coordinate.group.toList) (artifact' : '_' ∉ other.artifact.toList)
    (group' : '_' ∉ other.group.toList) (same : coordinate.joined = other.joined) :
    coordinate.group = other.group ∧ coordinate.artifact = other.artifact ∧
      coordinate.version = other.version := by
  have shown : ∀ c : Coordinate, c.joined.toList =
      c.artifact.toList ++ '_' :: (c.group.toList ++ '_' :: c.version.toList) := by
    intro c
    simp [joined]
  have names := congrArg String.toList same
  rw [shown, shown] at names
  obtain ⟨sameArtifact, rest⟩ := (append_firstSep_inj artifact artifact').1 names
  obtain ⟨sameGroup, sameVersion⟩ := (append_firstSep_inj group group').1 rest
  exact ⟨String.toList_inj.1 sameGroup, String.toList_inj.1 sameArtifact,
    String.toList_inj.1 sameVersion⟩

end Maven.Coordinate

end CallGraph
