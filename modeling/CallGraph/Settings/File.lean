import CallGraph.Failure
import CallGraph.FileTree.Basic
import CallGraph.Settings.Basic
import CallGraph.Toml.Reader
/-!
Settings in files. Where no file is named, the one in the working directory counts if it is there;
a file that is named must be there.
-/
namespace CallGraph.Settings

/-- The name of the file that counts where no other is named. -/
def fileName : String := "javacg.toml"

/-- Why there are no settings. -/
inductive Defect where
  | notFound (path : FilePath)
  /-- A file that is no TOML, with the reason. -/
  | notToml (path : FilePath) (reason : String)
  /-- A file with values that cannot be set, with what the schema says of it. -/
  | notAllowed (path : FilePath) (defects : List Schema.Defect) (reason : String)
  /-- A file that cannot be looked at. -/
  | stopped (stop : Stop)

/-- The wording of a defect in the settings themselves. -/
def Defect.message? : Defect → Option String
  | .notFound path => some ("Config file not found: " ++ path.text)
  | .notToml path reason => some ("Invalid TOML in " ++ path.text ++ ": " ++ reason)
  | .notAllowed path _ reason => some ("Invalid config in " ++ path.text ++ ": " ++ reason)
  | .stopped _ => none

section

variable [Platform]

/-- The settings that the contents of a file make. -/
def ofContents (path : FilePath) (contents : Octets) : Except Defect Settings :=
  match Text.decodeUtf8? contents with
  | none => .error (.stopped (.fault .notUtf8))
  | some text =>
    match Toml.read text with
    | .error .tooManyDigits => .error (.stopped (.fault .unreadableNumeral))
    | .error .tooDeep => .error (.stopped (.fault .tooDeep))
    | .error .invalid => .error (.notToml path (Platform.complaint .toml contents))
    | .ok members =>
      (ofMembers members).mapError fun defects =>
        .notAllowed path defects (Platform.complaint .settings contents)

/-- The settings in a file that is named, or in the one in a directory. -/
def load (files : FileTree) (dir : FilePath) (named? : Option FilePath) :
    Except Defect Settings := do
  let path := named?.getD (dir.join (.ofText fileName))
  if ← (files.isFile path).mapError fun e => .stopped e.stop then
    ofContents path (← (files.read path).mapError fun e => .stopped e.stop)
  else if named?.isSome then throw (.notFound path)
  else return {}

end

end CallGraph.Settings
