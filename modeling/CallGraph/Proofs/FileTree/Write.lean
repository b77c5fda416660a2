import CallGraph.FileTree.Basic
import CallGraph.Proofs.FileTree.Resolve
import CallGraph.Proofs.Listing

/-! What operations on files leave alone. A path that leads somewhere leads to
the place that it resolves to, and goes on doing so as long as directories stay.
Operations remove no directory, and writing a file changes what stands at one
place only, so a file that has been written is read back until another one is
written over it. -/
namespace CallGraph.FileTree
open Listing FilePath

variable {tree tree' before after last : FileTree} {path : FilePath} {place p : List String}
  {node : FileNode} {contents : Octets}

theorem node?_put_self (below : place ≠ []) : (tree.put place node).node? place = some node := by
  rw [node?, if_neg below]
  exact (Table.get?_insert ..).trans (if_pos rfl)

theorem node?_put_of_ne (other : p ≠ place) : (tree.put place node).node? p = tree.node? p := by
  have kept : (tree.put place node).nodes.get? p = tree.nodes.get? p :=
    (Table.get?_insert ..).trans (if_neg other)
  rw [node?, node?, kept]

/-- Where a path leads if it leads anywhere: to the place it resolves to. -/
def placeOf (tree : FileTree) (path : FilePath) : Place :=
  ⟨(path.resolve tree.cwd).segments, tree.node? (path.resolve tree.cwd).segments⟩

/-- A walk that comes to an end comes to the place that the segments resolve
to, also in a tree that has the directories on the way. -/
theorem walk_eq_ok
    (stays : ∀ p, tree.node? p = some .directory → tree'.node? p = some .directory)
    {here segments : List String} {found : Place} (walked : tree.walk here segments = .ok found) :
    found = ⟨normalize here segments, tree.node? (normalize here segments)⟩ ∧
      tree'.walk here segments =
        .ok ⟨normalize here segments, tree'.node? (normalize here segments)⟩ := by
  fun_induction tree.walk here segments with
  | case1 here => exact ⟨(Except.ok.inj walked).symm, rfl⟩
  | case2 here rest ih => exact ih walked
  | case3 here segment rest down long => cases walked
  | case4 here segment down place short =>
    rw [normalize_down down]
    refine ⟨(Except.ok.inj walked).symm, ?_⟩
    rw [walk, if_neg short]
    · rfl
    · exact down
  | case5 here segment down place short head tail free => cases walked
  | case6 here segment down place short contents head tail file => cases walked
  | case7 here segment down place short rest more directory ih =>
    rw [normalize_down down]
    obtain ⟨same, walked'⟩ := ih walked
    refine ⟨same, ?_⟩
    rw [walk, if_neg short]
    · exact walked'
    · exact down
    · exact stays _ directory
    · exact more

/-- The tree is at least as it was: what stood at a place stands there, and
directories stand everywhere they stood. -/
structure Guards (place : List String) (before after : FileTree) : Prop where
  cwd : after.cwd = before.cwd
  directory : ∀ p, before.node? p = some .directory → after.node? p = some .directory
  node : ∀ node, before.node? place = some node → after.node? place = some node

theorem Guards.refl (place : List String) (tree : FileTree) : Guards place tree tree :=
  ⟨rfl, fun _ => id, fun _ => id⟩

theorem Guards.trans (first : Guards place before after) (second : Guards place after last) :
    Guards place before last where
  cwd := second.cwd.trans first.cwd
  directory p stood := second.directory p (first.directory p stood)
  node node stood := second.node node (first.node node stood)

/-- A path that leads somewhere leads to the place it resolves to, and still
does so later on. -/
theorem locate_eq_ok {found : Place} (located : before.locate path = .ok found)
    (guards : Guards place before after) :
    found = before.placeOf path ∧ after.locate path = .ok (after.placeOf path) := by
  by_cases nul : path.text.toList.contains '\x00' = true
  · rw [locate, if_pos nul] at located
    cases located
  by_cases long : maxPath < (Text.encodeUtf8 path.text.toList).length
  · rw [locate, if_neg nul, if_pos long] at located
    cases located
  rw [locate, if_neg nul, if_neg long, mapError_eq_ok] at located
  obtain ⟨same, again⟩ := walk_eq_ok guards.directory located
  refine ⟨same, ?_⟩
  rw [locate, if_neg nul, if_neg long, mapError_eq_ok, guards.cwd, again, placeOf, guards.cwd]
  rfl

theorem read_eq_ok : tree.read path = .ok contents ↔
    ∃ found, tree.locate path = .ok found ∧ found.node? = some (.file contents) := by
  rw [read, bind_eq_ok]
  refine exists_congr fun found => and_congr_right fun _ => ?_
  cases stands : found.node? with
  | none => simp [fail]
  | some node => cases node <;> simp [fail, pure, Except.pure]

/-- What is read of a guarded file stays the same. -/
theorem Guards.read (guards : Guards (path.resolve before.cwd).segments before after)
    (read : before.read path = .ok contents) : after.read path = .ok contents := by
  obtain ⟨found, located, stands⟩ := read_eq_ok.1 read
  obtain ⟨rfl, again⟩ := locate_eq_ok located guards
  refine read_eq_ok.2 ⟨_, again, ?_⟩
  rw [placeOf, guards.cwd]
  exact guards.node _ stands

/-- A new node at a place without a directory leaves the other places alone, and
also this one if nothing stands there. -/
theorem guards_put (absent : tree.node? p ≠ some .directory)
    (apart : place ≠ p ∨ tree.node? p = none) : Guards place tree (tree.put p node) where
  cwd := rfl
  directory q stands := by
    have other : q ≠ p := fun same => absent (same ▸ stands)
    rw [node?_put_of_ne other, stands]
  node node stands := by
    have other : place ≠ p := by
      rintro rfl
      rcases apart with apart | free
      · exact apart rfl
      · rw [free] at stands
        cases stands
    rw [node?_put_of_ne other, stands]

/-- A directory is made at a free place. -/
theorem makeDirectory_eq_put (made : tree.makeDirectory path = .ok tree') :
    tree.node? (path.resolve tree.cwd).segments = none ∧
      tree' = tree.put (path.resolve tree.cwd).segments .directory := by
  obtain ⟨found, located, made⟩ := bind_eq_ok.1 made
  obtain ⟨rfl, -⟩ := locate_eq_ok located (.refl [] tree)
  by_cases taken : (tree.placeOf path).node?.isSome = true
  · rw [if_pos taken] at made
    cases made
  · rw [if_neg taken] at made
    exact ⟨Option.not_isSome_iff_eq_none.1 taken, (Except.ok.inj made).symm⟩

/-- A file is written where no directory stands. -/
theorem write_eq_put (written : tree.write path contents = .ok tree') :
    tree.node? (path.resolve tree.cwd).segments ≠ some .directory ∧
      tree' = tree.put (path.resolve tree.cwd).segments (.file contents) := by
  obtain ⟨found, located, written⟩ := bind_eq_ok.1 written
  obtain ⟨rfl, -⟩ := locate_eq_ok located (.refl [] tree)
  cases stands : tree.node? (path.resolve tree.cwd).segments with
  | none => simpa [placeOf, stands, pure, Except.pure, eq_comm] using written
  | some node =>
    cases node with
    | directory => simp [placeOf, stands, fail] at written
    | file old => simpa [placeOf, stands, pure, Except.pure, eq_comm] using written

/-- A file that is written is read back, and what stands anywhere else stays. -/
theorem write_eq_ok (written : tree.write path contents = .ok tree') :
    tree'.cwd = tree.cwd ∧ tree'.read path = .ok contents ∧
      ∀ place, place ≠ (path.resolve tree.cwd).segments → Guards place tree tree' := by
  obtain ⟨found, located, -⟩ := bind_eq_ok.1 written
  obtain ⟨absent, rfl⟩ := write_eq_put written
  have below : (path.resolve tree.cwd).segments ≠ [] := by
    intro root
    exact absent (by rw [root, node?, if_pos rfl])
  refine ⟨rfl, ?_, fun place other => guards_put absent (.inl other)⟩
  obtain ⟨-, again⟩ := locate_eq_ok located (guards_put absent (.inl below.symm))
  exact read_eq_ok.2 ⟨_, again, node?_put_self below⟩

end CallGraph.FileTree
