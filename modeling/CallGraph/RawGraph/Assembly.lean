import CallGraph.ArtifactGraph
import CallGraph.Jvm.Descriptor
import CallGraph.RawGraph.Basic
/-!
From the raw call graph of an artifact to its call graph. Methods of the artifact are numbered in
the order of their URIs, calls are entered in the order of the numbers and URIs at their ends, so
the result does not depend on the order in which an analyzer came across them.

Calls made by library methods are left out, and so is everything else about library methods that
no method of the artifact calls: their names are not even read.
-/
namespace CallGraph.RawGraph

open Jvm (Defect)

/-- The product of every method outside the artifact: it is not known which one. -/
def externalProduct : String := ""

/-- The artifact's own methods by their identifiers in the raw graph. -/
def applicationMethods (graph : RawGraph) : Except Defect (List (Int × MethodUri)) :=
  (graph.nodes.filter fun node => node.origin = .application).mapM fun node => do
    let method ← Jvm.methodOf none node.typeName node.name node.descriptor
    return (node.id, method)

/-- The order in which methods are numbered: by type, and by URI within a type. -/
def numberedBefore (a b : MethodUri) : Bool :=
  a.typeUri.text < b.typeUri.text || (a.typeUri.text == b.typeUri.text && a.text ≤ b.text)

/-- Distinct methods in the order in which they are numbered. -/
def numberMethods (methods : List MethodUri) : List MethodUri :=
  methods.eraseDups.mergeSort numberedBefore

/-- Files methods under their types, numbered from a first number on. -/
def fileMethods (graph : ArtifactGraph) : Nat → List MethodUri → ArtifactGraph
  | _, [] => graph
  | id, method :: methods => fileMethods (graph.addMethod id method) (id + 1) methods

/-- The supertypes that facts speak of. An empty name of a superclass is none. -/
def readSupertypes (facts : TypeFacts) : Except Defect Supertypes := do
  let classes ← match facts.superclass with
    | none => pure []
    | some "" => pure []
    | some name => pure [← Jvm.typeOfName name]
  let interfaces ← facts.interfaces.mapM Jvm.typeOfName
  return ⟨classes, interfaces⟩

/-- Records the facts on one type, if the artifact declares a method of it. -/
def attachFacts (graph : ArtifactGraph) (name : String) (facts : TypeFacts) :
    Except Defect ArtifactGraph := do
  let type ← Jvm.typeOfName name
  if graph.hierarchy.contains type then
    return graph.setSupertypes type (← readSupertypes facts)
  else return graph

/-- A call as the artifact's call graph shows it. -/
inductive Call where
  | internal (caller callee : Nat)
  | external (caller : Nat) (callee : MethodUri) (kind : CallKind)
deriving DecidableEq

/-- The number of an artifact's method, given the identifier that the raw graph has for it. -/
def number? (own : List (Int × MethodUri)) (numbered : List MethodUri) (id : Int) : Option Nat :=
  (Table.lookup id own).bind fun method => numbered.idxOf? method

/-- What becomes of one call: nothing, if no method of the artifact makes it. -/
def readCall (graph : RawGraph) (number? : Int → Option Nat) (edge : CallEdge) :
    Except Defect (Option Call) :=
  match number? edge.caller with
  | none => .ok none
  | some caller =>
    match number? edge.callee with
    | some callee => .ok (some (.internal caller callee))
    | none =>
      match graph.nodes.find? fun node => node.id = edge.callee with
      | none => .ok none
      | some node => do
        let callee ← Jvm.methodOf (some externalProduct) node.typeName node.name node.descriptor
        return some (.external caller callee edge.kind)

/-- The internal calls among calls, each once and in increasing order. -/
def internalCalls (calls : List Call) : List (Nat × Nat) :=
  (calls.filterMap fun
    | .internal caller callee => some (caller, callee)
    | .external .. => none).eraseDups.mergeSort fun a b => a.1 < b.1 || (a.1 == b.1 && a.2 ≤ b.2)

/-- The order in which external calls are entered. -/
def enteredBefore (a b : Nat × MethodUri × CallKind) : Bool :=
  a.1 < b.1 || (a.1 == b.1 && (a.2.1.text < b.2.1.text ||
    (a.2.1.text == b.2.1.text && a.2.2.name ≤ b.2.2.name)))

/-- The external calls among calls, by caller, callee and kind. -/
def externalCalls (calls : List Call) : List (Nat × MethodUri × CallKind) :=
  (calls.filterMap fun
    | .internal .. => none
    | .external caller callee kind => some (caller, callee, kind)).mergeSort enteredBefore

def enterCalls (graph : ArtifactGraph) (calls : List Call) : ArtifactGraph :=
  let graph := (internalCalls calls).foldl (fun g c => g.addInternalCall c.1 c.2) graph
  (externalCalls calls).foldl (fun g c => g.addExternalCall c.1 c.2.1 c.2.2.name) graph

/-- The call graph of the artifact. Of several names that cannot be read, the first one counts:
those of the artifact's methods come first, then the facts on types, then the callees. -/
def assemble (graph : RawGraph) : Except Defect ArtifactGraph := do
  let own ← graph.applicationMethods
  let numbered := numberMethods (own.map Prod.snd)
  let filed := fileMethods ∅ 0 numbered
  let typed ← graph.types.entries.foldlM (fun g entry => attachFacts g entry.1 entry.2) filed
  let calls ← graph.edges.mapM (graph.readCall (number? own numbered))
  return enterCalls typed (calls.filterMap id)

end CallGraph.RawGraph
