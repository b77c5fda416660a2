import CallGraph.Json.Shown
import CallGraph.Text.Blank
import CallGraph.Text.Cut
import CallGraph.Text.Printable
/-!
Coordinates of artifacts: group, artifact and version, and the repositories to look for them in,
in this order. The parts hold no blank and no unprintable character, so a coordinate is one word
wherever it is printed.
-/
namespace CallGraph.Maven

/-- The repository that is used where none is named. -/
def centralRepository : String := "https://repo.maven.apache.org/maven2/"

/-- The parts of a coordinate. -/
inductive Part where
  | group
  | artifact
  | version
deriving DecidableEq, Repr

/-- The name of a part in records and messages. -/
def Part.name : Part → String
  | .group => "groupId"
  | .artifact => "artifactId"
  | .version => "version"

/-- A reason why a text or a record gives no coordinate. -/
inductive CoordinateDefect where
  /-- A part that is empty or blank. -/
  | emptyPart (part : Part)
  /-- A part with a blank or an unprintable character in it. -/
  | blankInPart (part : Part) (value : String)
  /-- A text that does not have three or four fields. -/
  | malformed (text : String)
  | missingPart (part : Part)
deriving DecidableEq, Repr

def CoordinateDefect.message : CoordinateDefect → String
  | .emptyPart part => "Maven coordinate has an empty " ++ part.name
  | .blankInPart part value =>
    "Maven coordinate " ++ part.name ++ " contains whitespace: " ++ Text.quoted value
  | .malformed text => "Invalid Maven coordinate: " ++ Text.quoted text
  | .missingPart part => "Coordinate record is missing " ++ Text.quoted part.name

/-- A reason why a record gives no coordinate. -/
inductive RecordDefect where
  | coordinate (defect : CoordinateDefect)
  /-- A part that is nested too deeply to be shown. -/
  | tooDeep
deriving DecidableEq, Repr

/-- A text that can be a part of a coordinate: not empty, printable, and without blanks. -/
def isPart (text : String) : Bool :=
  !text.toList.isEmpty && text.toList.all fun c => !Text.isBlank c && Text.isPrintable c

/-- A coordinate and the repositories to look in. -/
structure Coordinate where
  group : String
  artifact : String
  version : String
  /-- The addresses of the repositories, each with a slash at its end. -/
  repos : List String
  group_ok : isPart group = true
  artifact_ok : isPart artifact = true
  version_ok : isPart version = true
deriving DecidableEq

namespace Coordinate

/-- A repository's address with a slash at its end. -/
def normalizeRepo (repo : String) : String :=
  if (Text.beforeEnd? ['/'] repo.toList).isSome then repo else repo ++ "/"

/-- The conditions on a part, in the order in which they are reported. -/
def checkPart (part : Part) (value : String) :
    Except CoordinateDefect { v : String // isPart v = true } :=
  if h : isPart value = true then .ok ⟨value, h⟩
  else if Text.allBlank value then .error (.emptyPart part)
  else .error (.blankInPart part value)

def make (group artifact version : String) (repos : List String) :
    Except CoordinateDefect Coordinate := do
  let ⟨group, group_ok⟩ ← checkPart .group group
  let ⟨artifact, artifact_ok⟩ ← checkPart .artifact artifact
  let ⟨version, version_ok⟩ ← checkPart .version version
  return ⟨group, artifact, version, repos.map normalizeRepo, group_ok, artifact_ok, version_ok⟩

/-- Reads `group:artifact:version` or `group:artifact:packaging:version`. Blanks at the ends of
the text do not count, and the packaging is passed over. -/
def parse (text : String) : Except CoordinateDefect Coordinate :=
  match (Text.fields ':' (Text.trimBy Text.isBlank text.toList)).map String.ofList with
  | [group, artifact, version] => make group artifact version [centralRepository]
  | [group, artifact, _, version] => make group artifact version [centralRepository]
  | _ => .error (.malformed text)

section Record

variable [Platform]

/-- A part of a record, as text. -/
def recordPart (part : Part) (members : List (String × Json)) : Except RecordDefect String :=
  match Json.member? part.name members with
  | some value => if value.isTooDeep then .error .tooDeep else .ok value.asText
  | none => .error (.coordinate (.missingPart part))

/-- Reads a record of the three parts. -/
def ofRecord (members : List (String × Json)) : Except RecordDefect Coordinate := do
  let group ← recordPart .group members
  let artifact ← recordPart .artifact members
  let version ← recordPart .version members
  (make group artifact version [centralRepository]).mapError .coordinate

end Record

/-- The coordinate with other repositories to look in; no repositories leave it as it is. -/
def withRepos (coordinate : Coordinate) (repos : List String) : Coordinate :=
  if repos.isEmpty then coordinate else { coordinate with repos := repos.map normalizeRepo }

def product (coordinate : Coordinate) : String := coordinate.group ++ ":" ++ coordinate.artifact

def text (coordinate : Coordinate) : String :=
  coordinate.group ++ ":" ++ coordinate.artifact ++ ":" ++ coordinate.version

/-- The directory of the artifact in a repository: each dot of the group starts a new level. -/
def directoryUrl (coordinate : Coordinate) (repo : String) : String :=
  normalizeRepo repo ++ String.ofList (Text.replaceChar '.' ['/'] coordinate.group.toList) ++ "/" ++
    coordinate.artifact ++ "/" ++ coordinate.version

/-- The address of a file of the artifact. -/
def fileUrl (coordinate : Coordinate) (repo ending : String) : String :=
  coordinate.directoryUrl repo ++ "/" ++ coordinate.artifact ++ "-" ++ coordinate.version ++ ending

def jarUrl (coordinate : Coordinate) (repo : String) : String := coordinate.fileUrl repo ".jar"

/-- The address of the artifact's build file. -/
def pomUrl (coordinate : Coordinate) (repo : String) : String := coordinate.fileUrl repo ".pom"

end Coordinate

end CallGraph.Maven
