import CallGraph.FileTree.Attempt
import CallGraph.Revision.FileName
import CallGraph.Revision.Writer
/-!
Publishing documents: a file in a directory, a line on the standard output, or both. A document
that cannot be written changes neither; only directories may have been made for it.
-/
namespace CallGraph

/-- What a run changes: the files, and the text on the standard output so far. -/
structure Workspace where
  files : FileTree
  output : String

namespace Revision

/-- Why a document is not published. -/
inductive PublishError where
  | directory (e : FileTree.DirectoryError)
  | file (e : FileError)
  | integer (e : IntegerTooLarge)

/-- The path of a document's file in a directory. -/
def pathIn (doc : Revision) (dir : FilePath) : FilePath :=
  dir.join (.ofText (fileName doc.product doc.version))

/-- An attempt at the files of a workspace. -/
def onFiles {ε : Type} (attempt : Attempt ε FileTree Unit) : Attempt ε Workspace Unit :=
  fun space =>
    match attempt space.files with
    | .ok () files => .ok () ⟨files, space.output⟩
    | .error e files => .error e ⟨files, space.output⟩

/-- Adds the line of a document to the standard output. -/
def printLine (doc : Revision) : Attempt PublishError Workspace Unit := do
  let line ← .ofExcept (doc.line.mapError .integer)
  modify fun space => ⟨space.files, space.output ++ line⟩

section

variable [Platform]

/-- Writes a document to its file in a directory. The contents are there before the file is
touched. -/
def writeFile (doc : Revision) (dir : FilePath) : Attempt PublishError Workspace Unit := do
  (onFiles (FileTree.establish dir)).adaptExcept .directory
  let contents ← .ofExcept (doc.fileContents.mapError .integer)
  (onFiles (.whole (·.write (doc.pathIn dir) contents))).adaptExcept .file

/-- Publishes a document in a directory, if there is one, and on the standard output, if that is
asked for. -/
def publish (doc : Revision) (dir? : Option FilePath) (toOutput : Bool) :
    Attempt PublishError Workspace Unit := do
  dir?.forM doc.writeFile
  if toOutput then doc.printLine else pure ()

end

end Revision

end CallGraph
