import CallGraph.FileTree.Failure
import CallGraph.FileTree.Path
import CallGraph.Table
import CallGraph.Text.Utf8
/-!
A tree of files and directories, as far as a program can see it through paths. Every operation
walks down from a directory segment by segment; what it finds on its way decides which failure it
reports.
-/
namespace CallGraph

/-- What stands at a place of the tree. -/
inductive FileNode where
  | file (contents : Octets)
  | directory
deriving DecidableEq

/-- Files and directories by the segments that lead to them from the root, and the directory that
relative paths start from. The root is always there. -/
structure FileTree where
  cwd : List String
  nodes : Table (List String) FileNode

namespace FileTree

def node? (tree : FileTree) (place : List String) : Option FileNode :=
  if place = [] then some .directory else tree.nodes.get? place

/-- The greatest number of octets in a segment. -/
def maxSegment : Nat := 255

/-- The greatest number of octets in the text of a path. -/
def maxPath : Nat := 4095

/-- Where a path leads: to something, or to a free place in a directory. -/
structure Place where
  segments : List String
  node? : Option FileNode

def walk (tree : FileTree) (here : List String) : List String → Except Errno Place
  | [] => .ok ⟨here, tree.node? here⟩
  | ".." :: rest => walk tree here.dropLast rest
  | segment :: rest =>
    let place := here ++ [segment]
    if maxSegment < (Text.encodeUtf8 segment.toList).length then .error .nameTooLong
    else match tree.node? place, rest with
      | node, [] => .ok ⟨place, node⟩
      | none, _ :: _ => .error .noEntry
      | some (.file _), _ :: _ => .error .notDirectory
      | some .directory, rest => walk tree place rest

/-- Where a path leads, or why it leads nowhere. -/
def locate (tree : FileTree) (path : FilePath) : Except FileError Place :=
  if path.text.toList.contains '\x00' then .error .nulInName
  else if maxPath < (Text.encodeUtf8 path.text.toList).length then
    .error (.system ⟨.nameTooLong, path.text⟩)
  else (tree.walk (if path.root = "" then tree.cwd else []) path.segments).mapError fun errno =>
    .system ⟨errno, path.text⟩

def fail {α : Type} (errno : Errno) (path : FilePath) : Except FileError α :=
  .error (.system ⟨errno, path.text⟩)

def read (tree : FileTree) (path : FilePath) : Except FileError Octets := do
  match (← tree.locate path).node? with
  | some (.file contents) => return contents
  | some .directory => fail .isDirectory path
  | none => fail .noEntry path

def contains (tree : FileTree) (path : FilePath) : Bool :=
  match tree.locate path with
  | .ok place => place.node?.isSome
  | .error _ => false

/-- A file stands at a path. That a name is too long is no answer but a failure. -/
def isFile (tree : FileTree) (path : FilePath) : Except FileError Bool :=
  match tree.locate path with
  | .ok ⟨_, some (.file _)⟩ => .ok true
  | .error (.system ⟨.nameTooLong, text⟩) => .error (.system ⟨.nameTooLong, text⟩)
  | _ => .ok false

def put (tree : FileTree) (place : List String) (node : FileNode) : FileTree :=
  { tree with nodes := tree.nodes.insert place node }

def remove (tree : FileTree) (place : List String) : FileTree :=
  { tree with nodes := tree.nodes.erase place }

/-- Writes a file: a new one in its directory, or over one that is there. -/
def write (tree : FileTree) (path : FilePath) (contents : Octets) : Except FileError FileTree := do
  let place ← tree.locate path
  match place.node? with
  | some .directory => fail .isDirectory path
  | _ => return tree.put place.segments (.file contents)

/-- Makes a directory at a free place. -/
def makeDirectory (tree : FileTree) (path : FilePath) : Except FileError FileTree := do
  let place ← tree.locate path
  if place.node?.isSome then fail .exists path
  else return tree.put place.segments .directory

/-- That a directory is not made does not matter where there is one already. -/
def settle (tree : FileTree) (path : FilePath) (e : FileError) : Except FileError FileTree :=
  match tree.locate path with
  | .ok ⟨_, some .directory⟩ => .ok tree
  | _ => .error e

/-- The segments of a place below the directory that relative paths start from. -/
def below? (tree : FileTree) (place : List String) : Option (List String) :=
  if tree.cwd.isPrefixOf place then some (place.drop tree.cwd.length) else none

/-- The files below the current directory that are new or have new contents. -/
def changesSince (tree before : FileTree) : List (List String × Octets) :=
  tree.nodes.entries.filterMap fun (place, node) =>
    match node, tree.below? place with
    | .file contents, some segments =>
      if before.nodes.get? place = some (.file contents) then none else some (segments, contents)
    | _, _ => none

end FileTree

end CallGraph
