import CallGraph.Text.Quoted
/-!
Failures of the file system, with the number, the wording and the name that each cause has in
messages and reports.
-/
namespace CallGraph

/-- Why the system refuses an operation. -/
inductive Errno where
  | noEntry
  | denied
  | exists
  | notDirectory
  | isDirectory
  | nameTooLong
deriving DecidableEq, Repr

namespace Errno

def number : Errno → Nat
  | .noEntry => 2
  | .denied => 13
  | .exists => 17
  | .notDirectory => 20
  | .isDirectory => 21
  | .nameTooLong => 36

def wording : Errno → String
  | .noEntry => "No such file or directory"
  | .denied => "Permission denied"
  | .exists => "File exists"
  | .notDirectory => "Not a directory"
  | .isDirectory => "Is a directory"
  | .nameTooLong => "File name too long"

/-- The name under which reports count a cause. -/
def name : Errno → String
  | .noEntry => "FileNotFoundError"
  | .denied => "PermissionError"
  | .exists => "FileExistsError"
  | .notDirectory => "NotADirectoryError"
  | .isDirectory => "IsADirectoryError"
  | .nameTooLong => "OSError"

end Errno

/-- A refused operation: its cause and the file it was about. -/
structure SystemError where
  errno : Errno
  path : String
deriving DecidableEq, Repr

def SystemError.message (e : SystemError) : String :=
  "[Errno " ++ e.errno.number.repr ++ "] " ++ e.errno.wording ++ ": " ++ Text.quoted e.path

/-- Why an operation on a file fails. -/
inductive FileError where
  | system (e : SystemError)
  /-- No file can have a name with a NUL character. -/
  | nulInName
deriving DecidableEq, Repr

/-- Why there may be no directory at a path. -/
inductive FileTree.DirectoryError where
  | file (e : FileError)
  /-- More directories are missing on the way to it than can be made with it. -/
  | tooDeep
deriving DecidableEq, Repr

end CallGraph
