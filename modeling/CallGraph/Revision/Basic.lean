import CallGraph.ArtifactGraph
import CallGraph.Text.Numeral
/-!
Revision documents: what is published of one version of one product. A document holds the call
graph of the artifact and the dependencies that its build file declares, with every type, method
and number in the form of text; `Revision.build` makes it from the parts, provided that none of
the numbers has too many digits to be written.
-/
namespace CallGraph

def forgeName : String := "mvn"

/-- The tool that documents name as the maker of the raw call graph. -/
def generatorName : String := "WALA"

/-- The version of a dependency on any version. -/
def wildcardVersion : String := "*"

/-- A range of versions; a bound may be unknown. -/
structure Constraint where
  lower : Option String
  upper : Option String
deriving DecidableEq, Repr

namespace Constraint

def pinned (version : Option String) : Constraint := ⟨version, version⟩

def isWildcard (range : Constraint) : Bool :=
  range.lower == some wildcardVersion && range.upper == some wildcardVersion

end Constraint

/-- A dependency on another product. -/
structure Dependency where
  forge : String
  product : String
  /-- The versions that will do; there is at least one range. -/
  constraints : List Constraint
  constraints_ne : constraints ≠ []
deriving DecidableEq

/-- One block of dependencies for each block of the build file that declares any. -/
abbrev DependencySet := List (List Dependency)

/-- A type in a document: its methods by number, and the URIs of its supertypes as far as they
are known. -/
structure TypeEntry where
  methods : Table String String
  superClasses : Option (List String)
  superInterfaces : Option (List String)
deriving DecidableEq

/-- The document of one revision. -/
structure Revision where
  forge : String
  product : String
  version : String
  generator : String
  depset : DependencySet
  /-- The class hierarchy: the types by their URIs. -/
  cha : Table String TypeEntry
  internalCalls : List (Int × Int)
  /-- The counts of the external calls, under the caller's number and the callee's URI. -/
  externalCalls : Table String (Table String String)
  timestamp : Int
deriving DecidableEq

namespace Revision

def typeEntry (known : TypeMethods) : TypeEntry :=
  ⟨Table.ofList (known.methods.entries.map fun (id, method) => (id.repr, method.text)),
    known.supertypes.map fun s => s.classes.map TypeUri.text,
    known.supertypes.map fun s => s.interfaces.map TypeUri.text⟩

/-- The key of the calls from one method to another outside the artifact. -/
def externalKey (caller : Int) (callee : MethodUri) : String :=
  caller.repr ++ "," ++ callee.text

/-- The numbers of a graph that a document has as text, in the order in which they are written. -/
def writtenNumbers (graph : ArtifactGraph) : List Int :=
  graph.hierarchy.entries.flatMap (fun (_, known) => known.methods.entries.map Prod.fst) ++
  graph.externalCalls.entries.flatMap fun ((caller, _), counts) =>
    caller :: counts.entries.map fun (_, count) => (count : Int)

/-- A number with too many digits to be written. -/
structure NumberTooLong where
  value : Int
deriving DecidableEq

/-- The document of a graph with its numbers as text. -/
def ofGraph (product version : String) (timestamp : Int) (depset : DependencySet)
    (graph : ArtifactGraph) : Revision where
  forge := forgeName
  product := product
  version := version
  generator := generatorName
  depset := depset
  cha := Table.ofList (graph.hierarchy.entries.map fun (type, known) => (type.text, typeEntry known))
  internalCalls := graph.internalCalls
  externalCalls := Table.ofList (graph.externalCalls.entries.map fun ((caller, callee), counts) =>
    (externalKey caller callee, counts.mapValues Nat.repr))
  timestamp := timestamp

/-- The document of a graph. -/
def build (product version : String) (timestamp : Int) (depset : DependencySet)
    (graph : ArtifactGraph) : Except NumberTooLong Revision :=
  match (writtenNumbers graph).find? fun i => !Text.isWritable i with
  | some i => .error ⟨i⟩
  | none => .ok (ofGraph product version timestamp depset graph)

def isEmpty (doc : Revision) : Bool := doc.internalCalls.isEmpty && doc.externalCalls.isEmpty

/-- The number of internal calls and of external caller and callee pairs. -/
def callCount (doc : Revision) : Nat := doc.internalCalls.length + doc.externalCalls.size

end Revision

end CallGraph
