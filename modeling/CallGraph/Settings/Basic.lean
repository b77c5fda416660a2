import CallGraph.Maven.Coordinate
import CallGraph.Schema.Container
import CallGraph.Toml.Value
/-!
Settings: where artifacts are looked for and documents are put, and how the analyzer is run. Each
has a value that goes without saying. A table that sets some of them is checked as a whole, and
every defect in it is reported.
-/
namespace CallGraph

/-- How much a run reports of what it does. -/
inductive LogLevel where
  | debug
  | info
  | warning
  | error
deriving DecidableEq, Repr

namespace LogLevel

/-- The levels, from the most to the least. -/
def all : List LogLevel := [.debug, .info, .warning, .error]

def name : LogLevel → String
  | .debug => "DEBUG"
  | .info => "INFO"
  | .warning => "WARNING"
  | .error => "ERROR"

def ofName? (name : String) : Option LogLevel := all.find? fun level => level.name == name

end LogLevel

/-- What can be set. -/
structure Settings where
  /-- The addresses of the repositories, in the order in which they are asked. -/
  repositories : List String := [Maven.centralRepository]
  outputDir : Option String := none
  logLevel : LogLevel := .info
  /-- How many seconds a repository may take to answer. -/
  httpTimeout : Double := .ofInt 30
  /-- The words of the command that runs the analyzer. -/
  analyzerCommand : List String := []
  /-- How many seconds the analyzer may take. -/
  analyzerTimeout : Option Double := none

namespace Settings

open Schema

/-- A setting that may be left out. -/
def setting {α : Type} (members : Toml.Members) (name : String) (absent : α)
    (value : Toml.Value → Check α) : Check α :=
  Check.under (.key name) <|
    match members.get? name with
    | some v => value v
    | none => .ok absent

/-- The value as a schema of texts and numbers sees it; there, nothing else is anything. -/
def scalar : Toml.Value → Json
  | .string text => .string text
  | .int i => .int i
  | .float d => .float d
  | .bool b => .bool b
  | _ => .null

def readTable {α : Type} (model : Toml.Members → Check α) : Toml.Value → Check α
  | .table members => model members
  | _ => .fail .modelType

def readText (value : Toml.Value) : Check String := Schema.string (scalar value)

def readSeconds (value : Toml.Value) : Check Double := positiveDouble (scalar value)

def readLevel : Toml.Value → Check LogLevel
  | .string name =>
    match LogLevel.ofName? name with
    | some level => .ok level
    | none => .fail .literalError
  | _ => .fail .literalError

/-- The beginnings of the addresses of repositories. -/
def repositorySchemes : List String := ["http://", "https://"]

def isRepository (text : String) : Bool :=
  repositorySchemes.any fun scheme => (Text.afterStart? scheme.toList text.toList).isSome

/-- The address of a repository, or how the value is shown that is none. -/
def repositoryOf : Toml.Value → Except String String
  | .string text => if isRepository text then .ok text else .error (Text.quoted text)
  | value => .error value.shown

/-- The addresses of repositories: at least one. -/
def readRepositories : Toml.Value → Check (List String)
  | .array (item :: items) =>
    match (item :: items).mapM repositoryOf with
    | .ok repos => .ok repos
    | .error shown => .fail (.condition ("Invalid repository URL: " ++ shown))
  | _ => .fail (.condition "repositories must be a non-empty list of URLs")

def readCommand : Toml.Value → Check (List String)
  | .array items => Check.eachFrom readText 0 items
  | _ => .fail .listType

def readHttp (defaults : Settings) : Toml.Value → Check Double :=
  readTable fun members =>
    (setting members "timeout" defaults.httpTimeout readSeconds).keeping
      (onlyMembers ["timeout"] members)

def readAnalyzer (defaults : Settings) : Toml.Value → Check (List String × Option Double) :=
  readTable fun members =>
    ((setting members "command" defaults.analyzerCommand readCommand).both
      (setting members "timeout" defaults.analyzerTimeout fun v => (readSeconds v).map some)).keeping
      (onlyMembers ["command", "timeout"] members)

/-- The settings that a table makes; what it does not set stays as it is. -/
def ofMembers (members : Toml.Members) : Check Settings :=
  let defaults : Settings := {}
  Check.keeping
    (((setting members "repositories" defaults.repositories readRepositories).both
      ((setting members "output_dir" defaults.outputDir fun v => (readText v).map some).both
        ((setting members "log_level" defaults.logLevel readLevel).both
          ((setting members "http" defaults.httpTimeout (readHttp defaults)).both
            (setting members "analyzer" (defaults.analyzerCommand, defaults.analyzerTimeout)
              (readAnalyzer defaults)))))).map
      fun (repositories, outputDir, logLevel, httpTimeout, analyzerCommand, analyzerTimeout) =>
        { repositories, outputDir, logLevel, httpTimeout, analyzerCommand, analyzerTimeout })
    (onlyMembers ["repositories", "output_dir", "log_level", "http", "analyzer"] members)

end Settings

end CallGraph
