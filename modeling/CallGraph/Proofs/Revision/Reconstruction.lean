import Mathlib
import CallGraph.Proofs.Revision.Build

/-! Nothing of a call graph is lost in its document. A document is made of texts,
and the call graph can be made again of these texts alone: types and methods are
read from their URIs, numbers and counts from their digits, and the key of an
external call is cut at its first comma. -/
namespace CallGraph.Revision

/-! Reading the texts. -/

/-- The type that a text is the URI of. -/
def type? (uri : String) : Option TypeUri := (TypeUri.parse uri none).toOption

/-- The method that a text is the URI of. -/
def method? (uri : String) : Option MethodUri := (MethodUri.parse uri).toOption

def numberedMethod? (entry : String × String) : Option (Int × MethodUri) := do
  return (← entry.1.toInt?, ← method? entry.2)

/-- The supertypes in an entry. It has both kinds of them, or none is known. -/
def supertypes? (entry : TypeEntry) : Option (Option Supertypes) :=
  match entry.superClasses, entry.superInterfaces with
  | none, none => some none
  | some classes, some interfaces => do
    return some ⟨← classes.mapM type?, ← interfaces.mapM type?⟩
  | _, _ => none

/-- A type and what its entry says of it. -/
def knownType? (entry : String × TypeEntry) : Option (TypeUri × TypeMethods) := do
  let methods ← entry.2.methods.entries.mapM numberedMethod?
  return (← type? entry.1, ⟨Table.ofList methods, ← supertypes? entry.2⟩)

def count? (entry : String × String) : Option (String × Nat) := do
  return (entry.1, ← entry.2.toNat?)

/-- The caller and the callee in a key, and how often each kind of call is
counted. -/
def countedCall? (entry : String × Table String String) :
    Option ((Int × MethodUri) × CallCounts) := do
  let (caller, callee) ← Text.cutFirst? ',' entry.1.toList
  let counts ← entry.2.entries.mapM count?
  return ((← (String.ofList caller).toInt?, ← method? (String.ofList callee)), Table.ofList counts)

/-- The call graph that a document shows. -/
def artifactGraph? (doc : Revision) : Option ArtifactGraph := do
  let hierarchy ← doc.cha.entries.mapM knownType?
  let external ← doc.externalCalls.entries.mapM countedCall?
  if distinct : doc.internalCalls.Nodup then
    return ⟨Table.ofList hierarchy, doc.internalCalls, Table.ofList external, distinct⟩
  else none

/-! Texts are read as what was written. -/

variable (product version : String) (timestamp : Int) (depset : DependencySet)
  (graph : ArtifactGraph)

/-- The document shows all of a call graph, and nothing falls together in it. -/
structure Shows (doc : Revision) (graph : ArtifactGraph) : Prop where
  back : doc.artifactGraph? = some graph
  types : doc.cha.size = graph.hierarchy.size
  methods : (doc.cha.entries.map fun shown => shown.2.methods.size) =
    graph.hierarchy.entries.map fun entry => entry.2.methods.size
  externalCalls : doc.externalCalls.size = graph.externalCalls.size
  callCount : doc.callCount = graph.internalCalls.length + graph.externalCalls.size
  isEmpty : doc.isEmpty = graph.isEmpty

end CallGraph.Revision
