import CallGraph.CommandLine.Options
import CallGraph.Settings.Basic
import CallGraph.Text.Blank
/-!
What can be asked of the program: the call graph of a coordinate or of a file of classes, those of
a batch of records, or the validation of a document.
-/
namespace CallGraph.CommandLine

/-- What is common to all commands that generate call graphs. -/
structure Generation where
  /-- The repositories to look in; none leaves the choice to the settings. -/
  repos : List String
  outputDir : Option String
  toOutput : Bool
  analyzer : Option String
  /-- A file with a raw call graph. -/
  rawGraph : Option String

/-- A command. -/
inductive Command where
  | coord (coordinate timestamp : String) (how : Generation)
  | jar (path product version timestamp : String) (dependencies : List String) (how : Generation)
  | batch (path : String) (how : Generation)
  | validate (path : String)

/-- A command, and the file with the settings that it is to be carried out with. -/
structure Invocation where
  settings : Option String
  command : Command

def usage : String :=
  "usage: javacg [-h] [--config CONFIG] [--log-level LEVEL] COMMAND ...\n" ++
  "  coord COORDINATE [-t TIMESTAMP]\n" ++
  "  jar PATH [-p PRODUCT] [-v VERSION] [-d DEPENDENCIES] [-t TIMESTAMP]\n" ++
  "  batch PATH\n" ++
  "  validate PATH\n" ++
  "Options of coord, jar and batch:\n" ++
  "  [-r REPOS] [-o OUTPUT] [--stdout] [--analyzer ANALYZER] [--raw-graph RAW_GRAPH]"

/-! ## Options -/

/-- The option that asks how to use the program. -/
def helpOption : OptionSpec := ⟨"help", ["-h", "--help"], .help⟩

def valueOption (name : String) (spellings : List String) : OptionSpec :=
  ⟨name, spellings, .value none⟩

def mainOptions : List OptionSpec :=
  [helpOption, valueOption "config" ["--config"],
    ⟨"log-level", ["--log-level"], .value (some (LogLevel.all.map LogLevel.name))⟩]

/-- The options of all commands that generate call graphs. -/
def generationOptions : List OptionSpec :=
  [valueOption "repos" ["-r", "--repos"], valueOption "output" ["-o", "--output"],
    ⟨"stdout", ["--stdout"], .flag⟩, valueOption "analyzer" ["--analyzer"],
    valueOption "raw-graph" ["--raw-graph"]]

/-- The option with the time of the release. -/
def timestampOption : OptionSpec := valueOption "timestamp" ["-t", "--timestamp"]

/-- The options of the command for a coordinate. -/
def coordOptions : List OptionSpec := helpOption :: timestampOption :: generationOptions

/-- The options of the command for a file of classes. -/
def jarOptions : List OptionSpec :=
  [helpOption, valueOption "product" ["-p", "--product"],
    valueOption "version" ["-v", "--version"],
    valueOption "dependencies" ["-d", "--dependencies"], timestampOption] ++ generationOptions

/-- The options of the command for a batch. -/
def batchOptions : List OptionSpec := helpOption :: generationOptions

/-! ## Reading -/

/-- The items of a text that are not blank, which commas part. -/
def splitItems (text : String) : List String :=
  ((Text.fields ',' text.toList).map fun item => Text.trim (String.ofList item)).filter fun item =>
    !item.toList.isEmpty

/-- How call graphs are to be generated. -/
def generationOf (arguments : Arguments) : Generation where
  repos := ((arguments.value? "repos").map splitItems).getD []
  outputDir := arguments.value? "output"
  toOutput := arguments.isSet "stdout"
  analyzer := arguments.value? "analyzer"
  rawGraph := arguments.value? "raw-graph"

/-- The operand of a command, which must be there. -/
def operandOf (arguments : Arguments) : Except Refusal String :=
  match arguments.operand with
  | some (text, _) => .ok text
  | none => .error .misuse

def readCommand (name : String) (texts : List String) : Except Refusal (Command × Arguments) :=
  match name with
  | "coord" => do
    let arguments ← readArguments coordOptions false texts
    return (.coord (← operandOf arguments) ((arguments.value? "timestamp").getD "0")
      (generationOf arguments), arguments)
  | "jar" => do
    let arguments ← readArguments jarOptions false texts
    return (.jar (← operandOf arguments) ((arguments.value? "product").getD "PRODUCT")
      ((arguments.value? "version").getD "0.0.0") ((arguments.value? "timestamp").getD "0")
      (((arguments.value? "dependencies").map splitItems).getD []) (generationOf arguments),
      arguments)
  | "batch" => do
    let arguments ← readArguments batchOptions false texts
    return (.batch (← operandOf arguments) (generationOf arguments), arguments)
  | "validate" => do
    let arguments ← readArguments [helpOption] false texts
    return (.validate (← operandOf arguments), arguments)
  | _ => .error .misuse

/-- Reads what is asked of the program. -/
def Invocation.read (texts : List String) : Except Refusal Invocation := do
  let arguments ← readArguments mainOptions true texts
  match arguments.operand with
  | none => throw .misuse
  | some (name, rest) =>
    let (command, inner) ← readCommand name rest
    if arguments.surplus || inner.surplus then throw .misuse
    else return ⟨(arguments.value? "config").filter (· ≠ ""), command⟩

end CallGraph.CommandLine
