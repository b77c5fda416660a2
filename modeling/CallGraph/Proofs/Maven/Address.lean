import CallGraph.Proofs.Maven.Coordinate

/-! Addresses of files in a repository. The directories of an address are the levels
of the group, the artifact and the version, and the name of the file is made of the
artifact and the version once more. Without slashes in the parts, an address comes
apart from its end: the name of the file, the version, the artifact, and then the
group with slashes in place of its dots. -/
namespace CallGraph.Maven.Coordinate
open Text

variable {coordinate other : Coordinate} {base base' ending : String}

/-! ## Repositories -/

def EndsInSlash (base : String) : Prop := ['/'] <:+ base.toList

instance (base : String) : Decidable (EndsInSlash base) :=
  inferInstanceAs (Decidable (_ <:+ _))

/-- The addresses of repositories are equal but for a slash at the end of one of
them, where the other has none. -/
def SameBase (base base' : String) : Prop :=
  base = base' ∨ ¬ EndsInSlash base ∧ base' = base ++ "/" ∨
    ¬ EndsInSlash base' ∧ base = base' ++ "/"

instance (base base' : String) : Decidable (SameBase base base') :=
  inferInstanceAs (Decidable (_ ∨ _))

theorem endsInSlash_append (base : String) : EndsInSlash (base ++ "/") :=
  ⟨base.toList, by simp⟩

theorem normalizeRepo_eq (base : String) :
    normalizeRepo base = if EndsInSlash base then base else base ++ "/" :=
  if_congr isSome_beforeEnd?_iff rfl rfl

/-- One slash makes up for its absence, and a second one stays. -/
theorem normalizeRepo_eq_iff : normalizeRepo base = normalizeRepo base' ↔ SameBase base base' := by
  rw [normalizeRepo_eq, normalizeRepo_eq, SameBase]
  by_cases ends : EndsInSlash base <;> by_cases ends' : EndsInSlash base'
  · simp [ends, ends']
  · have different : base ≠ base' := fun same => ends' (same ▸ ends)
    simp [ends, ends', different]
  · have different : base ≠ base' := fun same => ends (same ▸ ends')
    simp [ends, ends', different, eq_comm]
  · rw [if_neg ends, if_neg ends', String.append_left_inj]
    refine ⟨.inl, ?_⟩
    rintro (same | ⟨-, rfl⟩ | ⟨-, rfl⟩)
    · exact same
    · exact absurd (endsInSlash_append base) ends'
    · exact absurd (endsInSlash_append base') ends

/-! ## Files -/

/-- The group as a path. -/
def groupPath (coordinate : Coordinate) : List Char :=
  replaceChar '.' ['/'] coordinate.group.toList

/-- The name of a file of the artifact in its directory. -/
def localName (coordinate : Coordinate) (ending : String) : String :=
  coordinate.artifact ++ "-" ++ coordinate.version ++ ending

theorem toList_fileUrl (coordinate : Coordinate) (base ending : String) :
    (coordinate.fileUrl base ending).toList =
      ((normalizeRepo base).toList ++ coordinate.groupPath) ++ '/' :: coordinate.artifact.toList ++
        '/' :: coordinate.version.toList ++ '/' :: (coordinate.localName ending).toList := by
  simp [fileUrl, directoryUrl, localName, groupPath]

theorem slash_not_mem_localName (plain : coordinate.Avoids '/') (free : '/' ∉ ending.toList) :
    '/' ∉ (coordinate.localName ending).toList := by
  obtain ⟨-, artifact, version⟩ := plain
  simp [localName, artifact, version, free]

theorem group_eq_of_groupPath (plain : coordinate.Avoids '/') (plain' : other.Avoids '/')
    (same : coordinate.groupPath = other.groupPath) : coordinate.group = other.group := by
  have dotted := congrArg (replaceChar '/' ['.']) same
  rw [groupPath, groupPath, replaceChar_replaceChar plain.1, replaceChar_replaceChar plain'.1]
    at dotted
  exact String.toList_inj.1 dotted

theorem fileUrl_eq_iff (plain : coordinate.Avoids '/') (plain' : other.Avoids '/')
    (free : '/' ∉ ending.toList) :
    coordinate.fileUrl base ending = other.fileUrl base ending ↔ SameArtifact coordinate other := by
  constructor
  · intro same
    have shown := congrArg String.toList same
    rw [toList_fileUrl, toList_fileUrl] at shown
    -- Each cut is at the last slash that is left.
    obtain ⟨directory, -⟩ := (append_lastSep_inj (slash_not_mem_localName plain free)
      (slash_not_mem_localName plain' free)).1 shown
    obtain ⟨directory, version⟩ := (append_lastSep_inj plain.2.2 plain'.2.2).1 directory
    obtain ⟨directory, artifact⟩ := (append_lastSep_inj plain.2.1 plain'.2.1).1 directory
    exact ⟨group_eq_of_groupPath plain plain' (List.append_cancel_left directory),
      String.toList_inj.1 artifact, String.toList_inj.1 version⟩
  · rintro ⟨group, artifact, version⟩
    rw [fileUrl, fileUrl, directoryUrl, directoryUrl, group, artifact, version]

/-- Endings that are equally long tell files apart, whatever the artifacts and the
repositories are. -/
theorem fileUrl_ne {ending' : String} (size : ending.length = ending'.length)
    (different : ending ≠ ending') :
    coordinate.fileUrl base ending ≠ other.fileUrl base' ending' := by
  intro same
  have shown := congrArg String.toList same
  have ends := (String.toList_append ..).symm.trans (shown.trans (String.toList_append ..))
  exact different (String.toList_inj.1 (List.append_inj_right' ends size))

theorem fileUrl_base_eq_iff :
    coordinate.fileUrl base ending = coordinate.fileUrl base' ending ↔ SameBase base base' := by
  rw [← normalizeRepo_eq_iff]
  simp only [fileUrl, directoryUrl, String.append_left_inj]

/-- **The address of a file identifies the artifact.** In one repository, coordinates
without slashes in their parts have the same address for the build file exactly if
they name the same artifact, and so for the classes. No build file has the address
of classes, in any repositories. The address is the same with and without the slash
at the end of the repository's, and for no other two repositories. -/
theorem url_identifies (base : String) (coordinate other : Coordinate) :
    (coordinate.Avoids '/' → other.Avoids '/' →
      (coordinate.pomUrl base = other.pomUrl base ↔ SameArtifact coordinate other) ∧
      (coordinate.jarUrl base = other.jarUrl base ↔ SameArtifact coordinate other)) ∧
    (∀ base', coordinate.pomUrl base ≠ other.jarUrl base') ∧
    ∀ base', (coordinate.pomUrl base = coordinate.pomUrl base' ↔ SameBase base base') ∧
      (coordinate.jarUrl base = coordinate.jarUrl base' ↔ SameBase base base') := by
  refine ⟨fun plain plain' => ⟨?_, ?_⟩, fun base' => ?_, fun base' => ⟨?_, ?_⟩⟩
  · exact fileUrl_eq_iff plain plain' (by decide)
  · exact fileUrl_eq_iff plain plain' (by decide)
  · exact fileUrl_ne rfl (by decide)
  · exact fileUrl_base_eq_iff
  · exact fileUrl_base_eq_iff

/-- A group with an empty level, and a version with a dash. -/
def dashedVersion : Coordinate := ⟨"a..b", "c", "1-2", [], by decide, by decide, by decide⟩

def dashedArtifact : Coordinate := ⟨"a..b", "c-1", "2", [], by decide, by decide, by decide⟩

/-- Two artifacts whose files have one name have them at different addresses. -/
theorem url_identifies_dashed :
    dashedVersion.Avoids '/' ∧ dashedArtifact.Avoids '/' ∧
    dashedVersion.localName ".pom" = dashedArtifact.localName ".pom" ∧
    dashedVersion.pomUrl "https://h" ≠ dashedArtifact.pomUrl "https://h" ∧
    dashedVersion.pomUrl "https://h" ≠ dashedArtifact.jarUrl "https://h" ∧
    dashedVersion.pomUrl "https://h" = dashedVersion.pomUrl "https://h/" := by
  have plain : dashedVersion.Avoids '/' := by decide
  have plain' : dashedArtifact.Avoids '/' := by decide
  obtain ⟨identify, differ, slash⟩ := url_identifies "https://h" dashedVersion dashedArtifact
  refine ⟨plain, plain', by decide, ?_, differ _, (slash _).1.2 (by decide)⟩
  intro same
  exact absurd ((identify plain plain').1.1 same).artifact (by decide)

/-- A slash in a group cannot be told from a dot. -/
example : (⟨"a/b", "c", "1", [], by decide, by decide, by decide⟩ : Coordinate).pomUrl "https://h" =
    (⟨"a.b", "c", "1", [], by decide, by decide, by decide⟩ : Coordinate).pomUrl "https://h" := by
  decide

end CallGraph.Maven.Coordinate
