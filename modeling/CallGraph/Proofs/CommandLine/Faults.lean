import CallGraph.Proofs.CommandLine.Preparation
import CallGraph.Proofs.CommandLine.Single
import CallGraph.Proofs.Http.Answers
import CallGraph.Proofs.Pipeline.Delivery

/-! What a run on one artifact does not provide for. Every stage is told by what
has to be there for the run to end otherwise than with a code: the settings, the
choice of an analyzer, the work on the document and its publication. Anything
else that goes wrong is said, and ends the run with 1 or 2. -/
namespace CallGraph
open Listing

namespace Revision

variable {doc : Revision} {dir? : Option FilePath} {toOutput : Bool} {files : FileTree}
  {space : Workspace} {fault : Fault}

section

variable [Platform]

end

end Revision

namespace CommandLine
open Pipeline Maven

variable {around : Surroundings} {settings : Settings} {how : Generation} {work : Work}
  {command : Command} {analyzer : Analyzer} {doc : Revision} {files : FileTree}
  {classpath : List FilePath} {text : String} {named? : Option String} {path : FilePath}
  {contents : Octets} {stop : Stop} {fault : Fault}

section

variable [Platform]

end

section

open scoped Platform

end

end CommandLine

end CallGraph
