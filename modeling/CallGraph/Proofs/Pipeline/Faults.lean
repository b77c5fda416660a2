import CallGraph.Pipeline.External
import CallGraph.Proofs.FileTree.Path
import CallGraph.Proofs.Pipeline.Record

/-! Faults of the parts that the work on one artifact is put together from. Each
part is told by what has to be there for a fault: a build file in a character
set that is of no use, a file name that cannot be one, or a limit that cannot be
kept. -/
namespace CallGraph
open Listing

variable {fault : Fault}

namespace Maven

variable [Platform] {fetcher : Fetcher}

end Maven

namespace Pipeline

variable {files : FileTree} {classpath : List FilePath}

end Pipeline

end CallGraph
