import CallGraph.Pipeline.Generation
import CallGraph.Process.Basic
/-!
Analyzers that are commands. The paths of the classes are added to the words of the command, and
what it prints is read as a raw call graph, provided that it ends in time and with status zero.
-/
namespace CallGraph.Pipeline

/-- A command that analyzes classes. -/
structure ExternalAnalyzer where
  command : List String
  limit : Option Seconds
  command_ne_nil : command ≠ []

namespace ExternalAnalyzer

/-- A command that analyzes classes; it has at least one word. -/
def make (command : List String) (limit : Option Seconds) : Except Stop ExternalAnalyzer :=
  if h : command = [] then .error (.fault .emptyCommand) else .ok ⟨command, limit, h⟩

/-- Why there is no raw call graph after a command has been run. -/
def failureOf (limit : Option Seconds) (execution : Execution) : Option Stop :=
  match limit with
  | some seconds =>
    if seconds.isUnlimited then some (.fault .limitTooLong)
    else if !seconds.admits execution.duration then
      some (.failure (.analyzerTimedOut seconds.text))
    else exitFailure
  | none => exitFailure
where
  /-- Why there is no raw call graph after a command has ended. -/
  exitFailure : Option Stop :=
    if execution.ending.status = 0 then none
    else some (.failure (.analyzerExited execution.ending.status
      (Text.trim (String.ofList (Text.decodeUtf8Lossy execution.errors)))))

def analyze [Platform] (launcher : Launcher) (analyzer : ExternalAnalyzer) : Analyzer :=
  fun files classpath => do
    match launcher files (analyzer.command ++ classpath.map FilePath.text) with
    | .error (.system e) => throw (.failure (.analyzerNotStarted e))
    | .error .nulInName => throw (.fault .nulInName)
    | .ok execution =>
      match failureOf analyzer.limit execution with
      | some stop => throw stop
      | none => readRawGraph execution.output

end ExternalAnalyzer

end CallGraph.Pipeline
