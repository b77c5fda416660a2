import CallGraph.Table
import CallGraph.Uri.Method
/-!
The call graph of one artifact. Methods are filed under their declaring types and are known to
calls by number. A call inside the artifact is a pair of numbers and counts once; a call out of
it leads to the URI of a method and is counted for each kind of call.

The graph is built up by four operations, and each touches its own part only: the methods of a
type, the supertypes of a type, the internal calls, and the external calls.
-/
namespace CallGraph

/-- The direct supertypes of a type. -/
structure Supertypes where
  classes : List TypeUri
  interfaces : List TypeUri
deriving DecidableEq

/-- What is known of one type. -/
structure TypeMethods where
  /-- The methods of the type, by number. -/
  methods : Table Int MethodUri
  /-- The supertypes, unless nothing is known of them. -/
  supertypes : Option Supertypes
deriving DecidableEq

/-- A type of which nothing is known. -/
def TypeMethods.unknown : TypeMethods := ⟨∅, none⟩

/-- How often each kind of call has been seen. -/
abbrev CallCounts := Table String Nat

/-- The methods and calls of one artifact. -/
structure ArtifactGraph where
  /-- The types with their methods, in order of first mention. -/
  hierarchy : Table TypeUri TypeMethods
  /-- The calls inside the artifact, in order of first mention. -/
  internalCalls : List (Int × Int)
  /-- The calls out of the artifact: who calls which method, and how often in which way. -/
  externalCalls : Table (Int × MethodUri) CallCounts
  internal_nodup : internalCalls.Nodup

namespace ArtifactGraph

instance : EmptyCollection ArtifactGraph := ⟨⟨∅, [], ∅, List.nodup_nil⟩⟩

/-- Changes what is known of one type. -/
def updateType (graph : ArtifactGraph) (type : TypeUri) (f : TypeMethods → TypeMethods) :
    ArtifactGraph :=
  { graph with hierarchy := graph.hierarchy.update type fun known => f (known.getD .unknown) }

/-- Files a method under its type. A number that the type uses already passes to the new method. -/
def addMethod (graph : ArtifactGraph) (id : Int) (method : MethodUri) : ArtifactGraph :=
  graph.updateType method.typeUri fun known => { known with methods := known.methods.insert id method }

/-- Records the supertypes of a type, in place of any recorded before. -/
def setSupertypes (graph : ArtifactGraph) (type : TypeUri) (supertypes : Supertypes) :
    ArtifactGraph :=
  graph.updateType type fun known => { known with supertypes := some supertypes }

/-- Records a call inside the artifact. Recording it again changes nothing. -/
def addInternalCall (graph : ArtifactGraph) (caller callee : Int) : ArtifactGraph :=
  if h : (caller, callee) ∈ graph.internalCalls then graph
  else
    { graph with
      internalCalls := graph.internalCalls ++ [(caller, callee)]
      internal_nodup := by
        rw [List.nodup_append]
        refine ⟨graph.internal_nodup, List.nodup_cons.2 ⟨List.not_mem_nil, List.nodup_nil⟩, ?_⟩
        intro a ha b hb e
        rw [List.mem_singleton] at hb
        exact h (hb ▸ e ▸ ha) }

def countCall (counts : Option CallCounts) (kind : String) : CallCounts :=
  (counts.getD ∅).update kind fun n => n.getD 0 + 1

/-- Records a call out of the artifact. -/
def addExternalCall (graph : ArtifactGraph) (caller : Int) (callee : MethodUri) (kind : String) :
    ArtifactGraph :=
  { graph with
    externalCalls := graph.externalCalls.update (caller, callee) fun counts => countCall counts kind }

def isEmpty (graph : ArtifactGraph) : Bool :=
  graph.internalCalls.isEmpty && graph.externalCalls.isEmpty

end ArtifactGraph

end CallGraph
