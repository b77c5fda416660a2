import CallGraph.CommandLine.Run
import CallGraph.Process.Start
/-!
The program. It reads the files below the working directory and those that arguments name, carries
out what is asked, and writes back the files that have changed. It has no way to the web.
-/
namespace CallGraph

def octetsOf (bytes : ByteArray) : Octets := bytes.data.toList

/-- What stands below a directory of the disk, down to so many levels. -/
def readBelow : Nat → String → IO (List (FilePath × FileNode))
  | 0, _ => return []
  | levels + 1, name => do
    let entries ← (← IO.FS.realPath name).readDir
    let found ← entries.toList.mapM fun entry => do
      let path := FilePath.ofText entry.path.toString
      if ← entry.path.isDir then
        return (path, FileNode.directory) :: (← readBelow levels entry.path.toString)
      else return [(path, .file (octetsOf (← IO.FS.readBinFile entry.path)))]
    return found.flatten

/-- The file of the disk that an argument names, if there is one. -/
def readNamed (text : String) : IO (List (FilePath × FileNode)) := do
  try
    let path ← IO.FS.realPath text
    return [(.ofText path.toString, .file (octetsOf (← IO.FS.readBinFile path)))]
  catch _ => return []

/-- The directories that lead to a place. -/
def directoriesTo (place : List String) : List (List String × FileNode) :=
  (List.range place.length).map fun n => (place.take n, .directory)

/-- The files of the disk that a run can see. -/
def readDisk (arguments : List String) : IO FileTree := do
  let cwd := FilePath.ofText (← IO.currentDir).toString
  let named ← arguments.mapM readNamed
  let found := named.flatten ++ (← readBelow 64 cwd.text)
  let entries := directoriesTo cwd.segments ++ [(cwd.segments, .directory)] ++
    found.flatMap fun (path, node) => directoriesTo path.segments ++ [(path.segments, node)]
  return ⟨cwd.segments, Table.ofList (entries.filter fun entry => entry.1 ≠ [])⟩

def writeDisk (before after : FileTree) : IO Unit :=
  after.nodes.entries.forM fun (place, node) => do
    match node with
    | .directory => return ()
    | .file contents =>
      if before.nodes.get? place ≠ some node then
        IO.FS.createDirAll (FilePath.text ⟨"/", place.dropLast⟩)
        IO.FS.writeBinFile (FilePath.text ⟨"/", place⟩) ⟨contents.toArray⟩

/-- The home directory of the user, where the environment says it; no other user is known. -/
def homeOf (home? : Option String) (segment : String) : Option FilePath :=
  if segment = "~" then home?.map .ofText else none

open scoped Platform

/-- Carries out what arguments ask; the result is the status. -/
def runProgram (arguments : List String) : IO UInt32 := do
  let files ← readDisk arguments
  let around : CommandLine.Surroundings :=
    ⟨files, homeOf (← IO.getEnv "HOME"), fun _ _ => some (.error "there is no way to the web"),
      Programs.launch⟩
  let session := CommandLine.run around arguments
  writeDisk files session.files
  IO.print session.output
  IO.eprint session.errors
  match session.finish with
  | .refused _ => IO.eprintln CommandLine.usage
  | .crashed (.fault fault) => IO.eprintln ("error: " ++ fault.message)
  | .crashed (.failure failure) => IO.eprintln ("error: " ++ failure.message)
  | .exited _ => pure ()
  return session.finish.status.toUInt32

end CallGraph

/-- Generates and validates call graphs of artifacts. -/
def main (arguments : List String) : IO UInt32 := CallGraph.runProgram arguments
