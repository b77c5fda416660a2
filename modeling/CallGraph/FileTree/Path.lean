import CallGraph.Text.Cut
/-!
Paths. Writing a path drops empty and dot segments and keeps the others, also those that lead
upwards; only resolving a path against a directory follows them.
-/
namespace CallGraph

/-- A path: what it starts from, and its segments. -/
structure FilePath where
  /-- Empty for a relative path, otherwise one slash, or exactly two. -/
  root : String
  segments : List String
deriving DecidableEq, Repr

namespace FilePath

/-- The root that a text begins with. Three slashes or more are as good as one. -/
def rootOf (cs : List Char) : String :=
  match (cs.takeWhile (· == '/')).length with
  | 0 => ""
  | 2 => "//"
  | _ => "/"

/-- The segments of a text: empty ones and dots do not count. -/
def segmentsOf (cs : List Char) : List String :=
  ((Text.fields '/' cs).map String.ofList).filter fun s => s != "" && s != "."

def ofText (text : String) : FilePath := ⟨rootOf text.toList, segmentsOf text.toList⟩

/-- The text of a path; the path of no segments is a dot. -/
def text (path : FilePath) : String :=
  let text := path.root ++ String.intercalate "/" path.segments
  if text = "" then "." else text

/-- A path taken from a directory; an absolute one stands for itself. -/
def join (base path : FilePath) : FilePath :=
  if path.root = "" then ⟨base.root, base.segments ++ path.segments⟩ else path

def parent (path : FilePath) : FilePath := { path with segments := path.segments.dropLast }

/-- Follows the segments that lead upwards; from the root none does. -/
def normalize (here : List String) : List String → List String
  | [] => here
  | ".." :: rest => normalize here.dropLast rest
  | segment :: rest => normalize (here ++ [segment]) rest

/-- The absolute path without segments that lead upwards. -/
def resolve (path : FilePath) (cwd : List String) : FilePath :=
  ⟨"/", normalize (if path.root = "" then cwd else []) path.segments⟩

/-- A relative path whose first segment begins with a tilde starts from the home directory that
the segment stands for, if that one is known. -/
def expandHome (home? : String → Option FilePath) (path : FilePath) : Option FilePath :=
  match path.root, path.segments with
  | "", first :: rest =>
    if (Text.afterStart? ['~'] first.toList).isSome then
      (home? first).map fun home => ⟨home.root, home.segments ++ rest⟩
    else some path
  | _, _ => some path

end FilePath

end CallGraph
