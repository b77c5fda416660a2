import CallGraph.Failure
import CallGraph.FileTree.Path
/-!
Work that leaves a trace: the addresses that are asked for and the calls of the analyzer, in order,
up to the point where the work ends.
-/
namespace CallGraph

/-- Something that work does and others can see. -/
inductive Event where
  | requested (url : String)
  /-- The analyzer is called on files, each of which is there or not. -/
  | analyzed (classpath : List (FilePath × Bool))
deriving DecidableEq

/-- The events of some work, and its result. -/
structure Trace (α : Type) where
  events : List Event
  result : Except Stop α

namespace Trace

variable {α β : Type}

/-- Work that does nothing that others can see. -/
def ofExcept (result : Except Stop α) : Trace α := ⟨[], result⟩

/-- Work that goes on with the result of other work, if that has one. -/
def andThen (first : Trace α) (next : α → Trace β) : Trace β :=
  match first.result with
  | .ok a => ⟨first.events ++ (next a).events, (next a).result⟩
  | .error stop => ⟨first.events, .error stop⟩

instance : Monad Trace where
  pure a := ⟨[], .ok a⟩
  bind := andThen

/-- The addresses that have been asked for. -/
def requested (trace : Trace α) : List String :=
  trace.events.filterMap fun
    | .requested url => some url
    | .analyzed _ => none

def analyzed (trace : Trace α) : List (List (FilePath × Bool)) :=
  trace.events.filterMap fun
    | .requested _ => none
    | .analyzed classpath => some classpath

end Trace

end CallGraph
