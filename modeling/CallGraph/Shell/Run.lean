import CallGraph.Process.Programs
import CallGraph.Shell.Script
/-!
Running shell scripts. Statements run in order, as far as the status of the one before lets them,
until the script ends or ends itself.
-/
namespace CallGraph.Shell

/-- What a script is called and given. -/
structure Call where
  name : String
  words : List String

/-- What a script has come to. -/
structure State where
  output : Octets
  errors : Octets
  status : Nat
  /-- How many milliseconds it has taken, unless something in it never ends. -/
  duration : Option Nat
  ended : Option ProcessEnd

namespace State

def start : State := ⟨[], [], 0, some 0, none⟩

def goesOn (state : State) : Bool := state.ended.isNone && state.duration.isSome

end State

/-! ## Words -/

/-- What stands for the number of the script's own process. -/
def ownProcess : String := "$$"

/-- The words that a parameter stands for. -/
def valueOf (call : Call) (state : State) (name : String) : List String :=
  match name with
  | "0" => [call.name]
  | "@" => call.words
  | "*" => call.words
  | "#" => [call.words.length.repr]
  | "?" => [state.status.repr]
  | "$" => [ownProcess]
  | _ =>
    match name.toList.all Text.isAsciiDigit, name.toNat? with
    | true, some n => [call.words.getD (n - 1) ""]
    | _, _ => [""]

/-- Puts the first of some pieces to the last of those before. -/
def joinPieces : List (List Char) → List (List Char) → List (List Char)
  | [], pieces => pieces
  | [last], first :: pieces => (last ++ first) :: pieces
  | [last], [] => [last]
  | piece :: pieces, more => piece :: joinPieces pieces more

/-- Cuts the value of a parameter at blanks. -/
def cutValue (value : String) : List (List Char) :=
  Text.fields ' ' (value.toList.map fun c => if isBlank c || c == '\n' then ' ' else c)

/-- The words that a word stands for. -/
def expand (call : Call) (state : State) (word : Word) : List String :=
  let keepsEmpty := word.any fun
    | .text _ => true
    | .parameter name quoted => quoted && name != "@"
  let pieces := word.foldl (fun pieces part => joinPieces pieces (match part with
    | .text chars => [chars]
    | .parameter name true => (valueOf call state name).map String.toList
    | .parameter name false => (valueOf call state name).flatMap cutValue)) []
  let kept := pieces.filter fun piece => !piece.isEmpty
  (if kept.isEmpty && keepsEmpty then [[]] else kept).map String.ofList

/-! ## Commands -/

/-- The signals that are known by name. -/
def signals : List (String × Nat) :=
  [("HUP", 1), ("INT", 2), ("QUIT", 3), ("ABRT", 6), ("KILL", 9), ("SEGV", 11), ("PIPE", 13),
    ("ALRM", 14), ("TERM", 15)]

def signalOf (text : String) : Option Nat :=
  match text.toNat? with
  | some n => some n
  | none => signals.lookup ((Text.afterStart? "SIG".toList text.toList).elim text String.ofList)

/-- The signal that the words of a command send to the script itself. -/
def ownSignal? (words : List String) : Option Nat :=
  if words.getLast? ≠ some ownProcess then none
  else match words.dropLast with
    | [] => some 15
    | ["-s", name] => signalOf name
    | [option] => (Text.afterStart? ['-'] option.toList).bind (signalOf ∘ String.ofList)
    | _ => none

/-- What a command does: its work, and how it ends the script, if it does. -/
structure Effect where
  execution : Execution
  ended : Option ProcessEnd

/-- Prints words, with escapes taken for what they stand for. -/
def echo (words : List String) : Execution :=
  let (words, ending) := match words with
    | "-n" :: words => (words, "")
    | words => (words, "\n")
  .done (String.ofList (Programs.unescape (" ".intercalate words).toList) ++ ending) "" 0

def complaint (call : Call) (line : Nat) (text : String) (status : Nat) : Execution :=
  .done "" (call.name ++ ": " ++ line.repr ++ ": " ++ text ++ "\n") status

def runWords (files : FileTree) (call : Call) (state : State) (line : Nat) (input : Octets) :
    List String → Effect
  | [] => ⟨.done "" "" 0, none⟩
  | ":" :: _ => ⟨.done "" "" 0, none⟩
  | "exit" :: words =>
    let status := (words.head?.bind String.toNat?).getD state.status
    ⟨.done "" "" status, some (.exited (status % 256))⟩
  | "kill" :: words =>
    match ownSignal? words with
    | some signal => ⟨.done "" "" 0, some (.killed signal)⟩
    | none => ⟨.done "" "" 1, none⟩
  | "echo" :: words => ⟨echo words, none⟩
  | name :: words =>
    let (name, words, last) := match name, words with
      | "exec", name :: words => (name, words, true)
      | _, _ => (name, words, false)
    match Programs.named? name with
    | none => ⟨complaint call line (name ++ ": not found") 127, none⟩
    | some program =>
      let execution := program files words input
      ⟨execution, if last then some execution.ending else none⟩

/-- Where a stream goes. -/
inductive Sink where
  | standard
  | complaints
  | nowhere
deriving DecidableEq

/-- Where the streams of a command go, after its redirections. -/
def sinks (redirections : List Redirection) : Sink × Sink :=
  redirections.foldl (fun (output, errors) redirection =>
    match redirection.stream, redirection.target with
    | 1, .stream 2 => (errors, errors)
    | 2, .stream 1 => (output, output)
    | 1, .file _ => (.nowhere, errors)
    | 2, .file _ => (output, .nowhere)
    | _, _ => (output, errors)) (.standard, .complaints)

/-- What of two streams goes to one place. -/
def gathered (sink : Sink) (sinks : Sink × Sink) (execution : Execution) : Octets :=
  (if sinks.1 = sink then execution.output else []) ++
    (if sinks.2 = sink then execution.errors else [])

/-- The standard input of a command, or the name of a file that is not there. -/
def inputOf (files : FileTree) (call : Call) (state : State) (input : Octets)
    (redirections : List Redirection) : Except String Octets :=
  redirections.foldlM (fun input redirection =>
    match redirection.target with
    | .source word =>
      let name := " ".intercalate (expand call state word)
      match files.read (.ofText name) with
      | .ok contents => .ok contents
      | .error _ => .error name
    | _ => .ok input) input

def runCommand (files : FileTree) (call : Call) (state : State) (input : Octets)
    (command : Command) : Effect :=
  let effect : Effect := match inputOf files call state input command.redirections with
    | .error name =>
      ⟨complaint call command.line ("cannot open " ++ name ++ ": No such file") 2, none⟩
    | .ok input =>
      runWords files call state command.line input
        (command.words.flatMap (expand call state))
  let sinks := sinks command.redirections
  { effect with execution :=
      { effect.execution with
        output := gathered .standard sinks effect.execution
        errors := gathered .complaints sinks effect.execution } }

/-- The status of an ended command as a script sees it. -/
def statusOf : ProcessEnd → Nat
  | .exited status => status
  | .killed signal => 128 + signal

/-- Runs commands that each read what the one before it prints. -/
def runCommands (files : FileTree) (call : Call) (input : Octets) :
    State → List Command → State
  | state, [] => { state with output := state.output ++ input }
  | state, command :: commands =>
    let effect := runCommand files call state input command
    let state := { state with
      errors := state.errors ++ effect.execution.errors
      status := statusOf effect.execution.ending
      duration := do return (← state.duration) + (← effect.execution.duration)
      ended := effect.ended }
    if state.goesOn then runCommands files call effect.execution.output state commands
    else { state with output := state.output ++ effect.execution.output }

/-- Runs a statement, if the status of the one before lets it. -/
def runStatement (files : FileTree) (call : Call) (state : State) (statement : Statement) : State :=
  let runs := match statement.connector with
    | .always => true
    | .afterSuccess => state.status == 0
    | .afterFailure => state.status != 0
  if state.goesOn && runs then runCommands files call [] state statement.commands else state

def run (files : FileTree) (call : Call) (text : List Char) : Execution :=
  match readScript text with
  | none => complaint call 1 "Syntax error" 2
  | some script =>
    let state := script.foldl (runStatement files call) .start
    ⟨state.output, state.errors, state.ended.getD (.exited state.status), state.duration⟩

/-- The shell: runs the script in its words or in a file. -/
def program : Program := fun files words _ =>
  match words with
  | [] => .done "" "" 0
  | "-c" :: text :: words => run files ⟨words.headD "sh", words.drop 1⟩ text.toList
  | name :: words =>
    match files.read (.ofText name) with
    | .ok contents => run files ⟨name, words⟩ (Text.decodeUtf8Lossy contents)
    | .error _ => complaint ⟨"sh", []⟩ 0 ("cannot open " ++ name ++ ": No such file") 2

end CallGraph.Shell
