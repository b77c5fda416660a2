import CallGraph.FileTree.Attempt
import CallGraph.Proofs.FileTree.Path
import CallGraph.Proofs.FileTree.Write

/-! What attempts leave behind. An attempt ends as the operations that it is
made of do one after the other, and what is left after a refusal is told by a
relation that every operation keeps to: making directories on the way to a path
puts directories at free places and does nothing else, however far it comes. -/
namespace CallGraph
open Listing

namespace Attempt

variable {ε ε' σ α β : Type} {before after : σ} {a a' : α} {b : β} {e : ε}

/-! How attempts end. -/

theorem pure_eq_ok :
    (pure a : Attempt ε σ α) before = .ok a' after ↔ a = a' ∧ before = after := by
  show EStateM.Result.ok a before = _ ↔ _
  simp

theorem throw_ne_ok : (throw e : Attempt ε σ α) before ≠ .ok a after := nofun

theorem bind_eq_ok {first : Attempt ε σ α} {next : α → Attempt ε σ β} :
    (first >>= next) before = .ok b after ↔
      ∃ a between, first before = .ok a between ∧ next a between = .ok b after := by
  show EStateM.bind first next before = _ ↔ _
  unfold EStateM.bind
  cases first before <;> simp

theorem bind_eq_error {first : Attempt ε σ α} {next : α → Attempt ε σ β} :
    (first >>= next) before = .error e after ↔
      first before = .error e after ∨
        ∃ a between, first before = .ok a between ∧ next a between = .error e after := by
  show EStateM.bind first next before = _ ↔ _
  unfold EStateM.bind
  cases first before <;> simp

theorem tryCatch_eq_ok {first : Attempt ε σ α} {handle : ε → Attempt ε σ α} :
    tryCatch first handle before = .ok a after ↔
      first before = .ok a after ∨
        ∃ e between, first before = .error e between ∧ handle e between = .ok a after := by
  show EStateM.tryCatch first handle before = _ ↔ _
  unfold EStateM.tryCatch
  cases first before <;> simp [EStateM.Backtrackable.restore, EStateM.dummyRestore]

theorem tryCatch_eq_error {first : Attempt ε σ α} {handle : ε → Attempt ε σ α} :
    tryCatch first handle before = .error e after ↔
      ∃ e' between, first before = .error e' between ∧ handle e' between = .error e after := by
  show EStateM.tryCatch first handle before = _ ↔ _
  unfold EStateM.tryCatch
  cases first before <;> simp [EStateM.Backtrackable.restore, EStateM.dummyRestore]

theorem ofExcept_eq_ok {result : Except ε α} :
    ofExcept result before = .ok a after ↔ result = .ok a ∧ before = after := by
  cases result <;> simp [ofExcept]

theorem ofExcept_eq_error {result : Except ε α} :
    ofExcept result before = .error e after ↔ result = .error e ∧ before = after := by
  cases result <;> simp [ofExcept]

theorem whole_eq_ok {operation : σ → Except ε σ} :
    whole operation before = .ok () after ↔ operation before = .ok after := by
  unfold whole
  cases operation before <;> simp

theorem whole_eq_error {operation : σ → Except ε σ} :
    whole operation before = .error e after ↔ operation before = .error e ∧ before = after := by
  unfold whole
  cases operation before <;> simp

theorem adaptExcept_eq_ok {name : ε → ε'} {attempt : Attempt ε σ α} :
    attempt.adaptExcept name before = .ok a after ↔ attempt before = .ok a after := by
  unfold EStateM.adaptExcept
  cases attempt before <;> simp

theorem adaptExcept_eq_error {name : ε → ε'} {attempt : Attempt ε σ α} {e' : ε'} :
    attempt.adaptExcept name before = .error e' after ↔
      ∃ e, attempt before = .error e after ∧ name e = e' := by
  unfold EStateM.adaptExcept
  cases attempt before <;> simp [and_comm]

/-! What they leave. -/

/-- However it ends, the attempt leaves something related to what there was. -/
def Within (related : σ → σ → Prop) (attempt : Attempt ε σ α) : Prop :=
  ∀ before, match attempt before with
    | .ok _ after => related before after
    | .error _ after => related before after

variable {related : σ → σ → Prop} {attempt : Attempt ε σ α}

theorem Within.of_ok (within : Within related attempt) (done : attempt before = .ok a after) :
    related before after := by
  have here := within before
  rw [done] at here
  exact here

theorem Within.of_error (within : Within related attempt)
    (refused : attempt before = .error e after) : related before after := by
  have here := within before
  rw [refused] at here
  exact here

theorem within_of (ok : ∀ before a after, attempt before = .ok a after → related before after)
    (error : ∀ before e after, attempt before = .error e after → related before after) :
    Within related attempt := by
  intro before
  split
  · exact ok _ _ _ ‹_›
  · exact error _ _ _ ‹_›

theorem Within.bind {next : α → Attempt ε σ β}
    (trans : ∀ {x y z}, related x y → related y z → related x z) (first : Within related attempt)
    (rest : ∀ a, Within related (next a)) : Within related (attempt >>= next) := by
  refine within_of (fun before b after ended => ?_) fun before e after ended => ?_
  · obtain ⟨a, between, done, ended⟩ := bind_eq_ok.1 ended
    exact trans (first.of_ok done) ((rest a).of_ok ended)
  · rcases bind_eq_error.1 ended with refused | ⟨a, between, done, ended⟩
    · exact first.of_error refused
    · exact trans (first.of_ok done) ((rest a).of_error ended)

/-- What was done before a refusal stays done. -/
theorem Within.tryCatch {handle : ε → Attempt ε σ α}
    (trans : ∀ {x y z}, related x y → related y z → related x z) (first : Within related attempt)
    (rest : ∀ e, Within related (handle e)) :
    Within related (tryCatch attempt handle) := by
  refine within_of (fun before a after ended => ?_) fun before e after ended => ?_
  · rcases tryCatch_eq_ok.1 ended with done | ⟨e, between, refused, ended⟩
    · exact first.of_ok done
    · exact trans (first.of_error refused) ((rest e).of_ok ended)
  · obtain ⟨e', between, refused, ended⟩ := tryCatch_eq_error.1 ended
    exact trans (first.of_error refused) ((rest e').of_error ended)

end Attempt

namespace FileTree
open Attempt

variable {tree tree' before after last : FileTree} {path : FilePath} {place : List String}
  {contents : Octets}

/-! Making sure of a directory. -/

theorem operate_eq_ok {operation : FileTree → Except FileError FileTree} :
    operate operation before = .ok () after ↔ operation before = .ok after := by
  rw [operate, adaptExcept_eq_ok, whole_eq_ok]

theorem operate_eq_error {operation : FileTree → Except FileError FileTree} {e : DirectoryError} :
    operate operation before = .error e after ↔
      ∃ refusal, operation before = .error refusal ∧ before = after ∧ .file refusal = e := by
  simp only [operate, adaptExcept_eq_error, whole_eq_error, and_assoc]

theorem within_operate {related : FileTree → FileTree → Prop}
    {operation : FileTree → Except FileError FileTree} (refl : ∀ tree, related tree tree)
    (done : ∀ before after, operation before = .ok after → related before after) :
    Within related (operate operation) := by
  refine within_of (fun before _ after ended => ?_) fun before e after ended => ?_
  · exact done _ _ (operate_eq_ok.1 ended)
  · obtain ⟨-, -, rfl, -⟩ := operate_eq_error.1 ended
    exact refl before

/-- A directory that is there already is left as it is. -/
theorem settle_eq_ok {e : FileError} (settled : tree.settle path e = .ok tree') : tree' = tree := by
  rw [settle] at settled
  split at settled
  · exact (Except.ok.inj settled).symm
  · cases settled

/-- There is no directory at the path because the one above it is missing. -/
def LacksDirectory (tree : FileTree) (path : FilePath) : Prop :=
  ∃ text, tree.makeDirectory path = .error (.system ⟨.noEntry, text⟩)

section

variable [Platform]

/-- The directory at the path and more of those above it are missing than can be
made with it. -/
def TooFar (tree : FileTree) (path : FilePath) : Prop :=
  ∀ n ≤ Platform.missingDirectories, LacksDirectory tree (FilePath.parent^[n] path)

end

/-- What making one directory keeps to, making sure of one keeps to. -/
theorem within_establishFrom {related : FileTree → FileTree → Prop}
    (refl : ∀ tree, related tree tree)
    (trans : ∀ {x y z}, related x y → related y z → related x z)
    (makes : ∀ {path : FilePath} {before after : FileTree},
      before.makeDirectory path = .ok after → related before after)
    (path : FilePath) (room : Nat) : Within related (establishFrom path room) := by
  have make (path : FilePath) : Within related (operate (·.makeDirectory path)) :=
    within_operate refl fun _ _ => makes
  have accepts (path : FilePath) (e : DirectoryError) : Within related (accept path e) := by
    cases e with
    | file e => exact within_operate refl fun before after settled =>
        settle_eq_ok settled ▸ refl before
    | tooDeep => exact refl
  induction room generalizing path with
  | zero =>
    unfold establishFrom
    refine (make path).tryCatch trans fun e => ?_
    split
    · split
      · exact refl
      · exact refl
    · exact accepts path _
  | succ room ih =>
    unfold establishFrom
    refine (make path).tryCatch trans fun e => ?_
    split
    · split
      · exact refl
      · exact (ih path.parent).bind trans fun _ => (make path).tryCatch trans (accepts path)
    · exact accepts path _

/-- The only difference is in directories where nothing stood. -/
structure OnlyDirectories (before after : FileTree) : Prop where
  cwd : after.cwd = before.cwd
  node : ∀ place, after.node? place = before.node? place ∨
    before.node? place = none ∧ after.node? place = some .directory

theorem OnlyDirectories.refl (tree : FileTree) : OnlyDirectories tree tree :=
  ⟨rfl, fun _ => .inl rfl⟩

theorem OnlyDirectories.trans (first : OnlyDirectories before after)
    (second : OnlyDirectories after last) : OnlyDirectories before last where
  cwd := second.cwd.trans first.cwd
  node place := by
    rcases second.node place with same | ⟨free, made⟩
    · rw [same]
      exact first.node place
    · rcases first.node place with same | ⟨-, stands⟩
      · exact .inr ⟨same ▸ free, made⟩
      · rw [stands] at free
        cases free

theorem onlyDirectories_makeDirectory (made : tree.makeDirectory path = .ok tree') :
    OnlyDirectories tree tree' := by
  obtain ⟨free, rfl⟩ := makeDirectory_eq_put made
  have below : (path.resolve tree.cwd).segments ≠ [] := by
    intro root
    rw [root, node?, if_pos rfl] at free
    cases free
  refine ⟨rfl, fun place => ?_⟩
  by_cases same : place = (path.resolve tree.cwd).segments
  · rw [same]
    exact .inr ⟨free, node?_put_self below⟩
  · exact .inl (node?_put_of_ne same)

/-- Attempts to make directories make directories, however far they come. -/
theorem onlyDirectories_establish [Platform] (path : FilePath) :
    Within OnlyDirectories (establish path) :=
  within_establishFrom .refl .trans onlyDirectories_makeDirectory path _

/-- Directories that are made leave everything else alone. -/
theorem OnlyDirectories.guards (only : OnlyDirectories before after) (place : List String) :
    Guards place before after := by
  have stays : ∀ p node, before.node? p = some node → after.node? p = some node := by
    intro p node stands
    rcases only.node p with same | ⟨free, -⟩
    · rw [same, stands]
    · cases free.symm.trans stands
  exact ⟨only.cwd, fun p => stays p .directory, stays place⟩

/-! Files. -/

/-- The contents of the file at a place, if one stands there. -/
def file? (tree : FileTree) (place : List String) : Option Octets :=
  match tree.node? place with
  | some (.file contents) => some contents
  | _ => none

theorem OnlyDirectories.file? (only : OnlyDirectories before after) (place : List String) :
    after.file? place = before.file? place := by
  rw [FileTree.file?, FileTree.file?]
  rcases only.node place with same | ⟨free, made⟩
  · rw [same]
  · rw [free, made]

/-- One file is created or replaced, and holds the contents now. No other file
is touched. -/
structure OneFile (before : FileTree) (path : FilePath) (contents : Octets) (after : FileTree) :
    Prop where
  read : after.read path = .ok contents
  files : ∀ place, after.file? place =
    if place = (path.resolve before.cwd).segments then some contents else before.file? place

theorem oneFile_write (only : OnlyDirectories before tree)
    (written : tree.write path contents = .ok after) : OneFile before path contents after := by
  obtain ⟨-, read, -⟩ := write_eq_ok written
  obtain ⟨absent, rfl⟩ := write_eq_put written
  refine ⟨read, fun place => ?_⟩
  have below : (path.resolve tree.cwd).segments ≠ [] := by
    intro root
    exact absent (by rw [root, node?, if_pos rfl])
  rw [← only.cwd]
  split
  · next same =>
    rw [same, file?, node?_put_self below]
  · next other =>
    rw [← only.file? place, file?, file?, node?_put_of_ne other]

end FileTree

end CallGraph
