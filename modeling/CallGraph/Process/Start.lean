import CallGraph.Shell.Run
/-!
Starting programs by name. A name without a slash is looked for among the programs at hand; one
with a slash is the path of a program. Files that hold no program cannot be started.
-/
namespace CallGraph.Programs

/-- The programs at hand, with the shell. -/
def atHand : List (String × Program) := ("sh", Shell.program) :: all

def directories : List (List String) := [["bin"], ["usr", "bin"]]

def program? (place : List String) : Option Program :=
  if directories.contains place.dropLast then atHand.lookup (place.getLastD "") else none

/-- The program with a name, or why there is none that can be started. -/
def find (files : FileTree) (name : String) : Except Errno Program :=
  if name.toList.contains '/' then
    match files.locate (.ofText name) with
    | .error (.system e) => .error e.errno
    | .error .nulInName => .error .noEntry
    | .ok place =>
      match program? place.segments, place.node? with
      | some program, _ => .ok program
      | none, none => .error .noEntry
      | none, some _ => .error .denied
  else if name = "" then .error .denied
  else if FileTree.maxSegment < (Text.encodeUtf8 name.toList).length then .error .nameTooLong
  else match atHand.lookup name with
    | some program => .ok program
    | none => .error .noEntry

/-- Starts a program with the words after its name. -/
def launch : Launcher := fun files words =>
  if words.any fun word => word.toList.contains '\x00' then .error .nulInName
  else match words with
    | [] => .error (.system ⟨.denied, ""⟩)
    | name :: words =>
      match find files name with
      | .ok program => .ok (program files words [])
      | .error errno => .error (.system ⟨errno, name⟩)

end CallGraph.Programs
