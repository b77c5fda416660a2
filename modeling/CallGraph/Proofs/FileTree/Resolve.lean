import CallGraph.FileTree.Path
import CallGraph.Proofs.Text.Cut

/-! Where paths lead once the segments that lead upwards are followed. A text
without slashes is one segment, and a directory is left only by segments that
lead upwards. -/
namespace CallGraph.FilePath
open Text

variable {here segments rest : List String} {segment name : String}

/-- A segment that does not lead upwards leads downwards. -/
theorem normalize_down (down : segment ≠ "..") :
    normalize here (segment :: rest) = normalize (here ++ [segment]) rest := by
  rw [normalize]
  exact down

theorem normalize_append (here segments rest : List String) :
    normalize here (segments ++ rest) = normalize (normalize here segments) rest := by
  fun_induction normalize here segments with
  | case1 here => rfl
  | case2 here more ih => exact ih
  | case3 here segment more down ih =>
    rw [List.cons_append, normalize_down down]
    exact ih

/-- A last segment that does not lead upwards is the last one in the end. -/
theorem normalize_concat (down : name ≠ "..") (here segments : List String) :
    normalize here (segments ++ [name]) = normalize here segments ++ [name] := by
  rw [normalize_append, normalize_down down, normalize]

/-! Texts as paths. -/

theorem rootOf_of_free {cs : List Char} (free : '/' ∉ cs) : rootOf cs = "" := by
  cases cs with
  | nil => rfl
  | cons c rest =>
    have other : c ≠ '/' := fun same => free (same ▸ List.mem_cons_self)
    simp [rootOf, other]

/-- The text names something in a directory: it has no slash, and leads neither
upwards nor nowhere. -/
structure IsName (name : String) : Prop where
  free : '/' ∉ name.toList
  nonempty : name ≠ ""
  more : name ≠ "."
  down : name ≠ ".."

/-- A name is one segment. -/
theorem IsName.ofText (named : IsName name) : ofText name = ⟨"", [name]⟩ := by
  have segments : segmentsOf name.toList = [name] := by
    rw [segmentsOf, fields_of_free named.free]
    simp [named.nonempty, named.more]
  rw [FilePath.ofText, rootOf_of_free named.free, segments]

/-- A name leads to a direct child of the directory it is taken from. -/
theorem IsName.resolve_join (named : IsName name) (dir : FilePath) (cwd : List String) :
    (dir.join (FilePath.ofText name)).resolve cwd =
      ⟨"/", (dir.resolve cwd).segments ++ [name]⟩ := by
  rw [named.ofText, join, if_pos rfl]
  simp only [resolve]
  rw [normalize_concat named.down]

/-- No segment of a text has a slash in it. -/
theorem slash_not_mem_segmentsOf {cs : List Char} (mem : segment ∈ segmentsOf cs) :
    '/' ∉ segment.toList := by
  obtain ⟨field, here, rfl⟩ := List.mem_map.1 (List.mem_filter.1 mem).1
  rw [String.toList_ofList]
  exact sep_not_mem_fields here

/-- A text that ends in three characters or more without a slash among them has
a last segment, which does not lead upwards. -/
theorem exists_segmentsOf_append {ending : List Char} (free : '/' ∉ ending)
    (long : 3 ≤ ending.length) (cs : List Char) :
    ∃ front last, segmentsOf (cs ++ ending) = front ++ [last] ∧ last ≠ ".." := by
  obtain ⟨front, last, -, split⟩ := exists_fields_append free cs
  have other : ∀ text : String, text.toList.length < 3 → String.ofList (last ++ ending) ≠ text := by
    rintro text short rfl
    rw [String.toList_ofList, List.length_append] at short
    omega
  have nonempty := other "" (by decide)
  have more := other "." (by decide)
  refine ⟨(front.map String.ofList).filter fun s => s != "" && s != ".",
    String.ofList (last ++ ending), ?_, other ".." (by decide)⟩
  rw [segmentsOf, split, List.map_append, List.filter_append]
  simp [-String.ofList_append, nonempty, more]

/-- A name with slashes in it is not the name of what it leads to. -/
theorem resolve_join_ne {ending : List Char} (free : '/' ∉ ending) (long : 3 ≤ ending.length)
    {cs : List Char} (ends : name.toList = cs ++ ending) (slash : '/' ∈ name.toList)
    (dir : FilePath) (cwd above : List String) :
    ((dir.join (ofText name)).resolve cwd).segments ≠ above ++ [name] := by
  obtain ⟨front, last, split, down⟩ := exists_segmentsOf_append free long cs
  rw [← ends] at split
  have plain : '/' ∉ last.toList := by
    apply slash_not_mem_segmentsOf
    rw [split]
    exact List.mem_append_right _ List.mem_cons_self
  intro same
  have leads : ∃ place, ((dir.join (ofText name)).resolve cwd).segments = place ++ [last] := by
    unfold join
    split
    · simp only [resolve, ofText, split]
      rw [← List.append_assoc, normalize_concat down]
      exact ⟨_, rfl⟩
    · simp only [resolve, ofText, split]
      rw [normalize_concat down]
      exact ⟨_, rfl⟩
  obtain ⟨place, leads⟩ := leads
  obtain ⟨-, named⟩ := List.append_inj' (leads.symm.trans same) rfl
  obtain rfl := List.singleton_inj.1 named
  exact plain slash

end CallGraph.FilePath
