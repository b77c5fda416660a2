import CallGraph.FileTree.Basic
import CallGraph.Platform
/-!
Operations one after the other, as they are seen from outside: when one is refused, those before it
have been done. Making a directory and those that are missing on the way to it is several
operations.
-/
namespace CallGraph

/-- Operations that change something, of which one may be refused. -/
abbrev Attempt (ε σ : Type) := EStateM ε σ

namespace Attempt

variable {ε σ α : Type}

/-- A step that changes nothing. -/
def ofExcept (result : Except ε α) : Attempt ε σ α := fun state =>
  match result with
  | .ok a => .ok a state
  | .error e => .error e state

/-- An operation that is done as a whole or not at all. -/
def whole (operation : σ → Except ε σ) : Attempt ε σ Unit := fun before =>
  match operation before with
  | .ok after => .ok () after
  | .error e => .error e before

end Attempt

namespace FileTree

/-- One operation on the way to a directory. -/
def operate (operation : FileTree → Except FileError FileTree) :
    Attempt DirectoryError FileTree Unit :=
  (Attempt.whole operation).adaptExcept .file

/-- A directory that is not made may be there already. -/
def accept (path : FilePath) : DirectoryError → Attempt DirectoryError FileTree Unit
  | .file e => operate (·.settle path e)
  | .tooDeep => throw .tooDeep

/-- Makes sure that there is a directory at a path. The one above it is seen to first where it is
missing, inside the work on this one and as long as there is room for that. -/
def establishFrom (path : FilePath) (room : Nat) : Attempt DirectoryError FileTree Unit :=
  tryCatch (operate (·.makeDirectory path)) fun
    | .file (.system ⟨.noEntry, text⟩) =>
      if path.parent = path then throw (.file (.system ⟨.noEntry, text⟩))
      else match room with
        | 0 => throw .tooDeep
        | room + 1 => do
          establishFrom path.parent room
          tryCatch (operate (·.makeDirectory path)) (accept path)
    | e => accept path e

/-- Makes sure that there is a directory at a path. -/
def establish [Platform] (path : FilePath) : Attempt DirectoryError FileTree Unit :=
  establishFrom path Platform.missingDirectories

end FileTree

end CallGraph
