import CallGraph.CommandLine.Run
import CallGraph.Proofs.FileTree.Write
import CallGraph.Proofs.Pipeline.Faults

/-! What a command needs before its work begins: the places that its arguments
name, its settings and an analyzer. Each is told by what has to be there for the
run to end otherwise than with a code. Other defects of the settings, and that
there is no analyzer, are said. -/
namespace CallGraph.CommandLine
open Listing Pipeline

variable {around : Surroundings} {settings : Settings} {how : Generation} {analyzer : Analyzer}
  {files : FileTree} {classpath : List FilePath} {text : String} {named? : Option String}
  {path : FilePath} {contents : Octets} {stop : Stop} {fault : Fault}

/-! Paths in arguments. -/

section

variable [Platform]

end

/-! Analyzers. -/

/-- The command that the options or the settings name for an analyzer. -/
def IsCommand (settings : Settings) (how : Generation) (command : List String) : Prop :=
  how.rawGraph = none ∧ ((∃ text, how.analyzer = some text ∧ splitWords text = some command) ∨
    how.analyzer = none ∧ settings.analyzerCommand = command)

theorem IsCommand.unique {words words' : List String} (chosen : IsCommand settings how words)
    (chosen' : IsCommand settings how words') : words = words' := by
  rcases chosen.2 with ⟨text, asked, split⟩ | ⟨unasked, set⟩ <;>
    rcases chosen'.2 with ⟨text', asked', split'⟩ | ⟨unasked', set'⟩ <;> simp_all

section

variable [Platform]

end

end CallGraph.CommandLine
