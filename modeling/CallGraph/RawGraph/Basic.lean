import CallGraph.Table
/-!
Raw call graphs, as an analyzer finds them: methods with their names in class files, calls from
one method to another, and what is known of the supertypes of some types. Methods have distinct
identifiers and calls go between methods of the graph.
-/
namespace CallGraph

/-- The instruction by which one method calls another. -/
inductive CallKind where
  | invokevirtual
  | invokespecial
  | invokestatic
  | invokeinterface
  | invokedynamic
deriving DecidableEq, Repr

namespace CallKind

def all : List CallKind :=
  [.invokevirtual, .invokespecial, .invokestatic, .invokeinterface, .invokedynamic]

def name : CallKind → String
  | .invokevirtual => "invokevirtual"
  | .invokespecial => "invokespecial"
  | .invokestatic => "invokestatic"
  | .invokeinterface => "invokeinterface"
  | .invokedynamic => "invokedynamic"

def ofName? (name : String) : Option CallKind := all.find? fun kind => kind.name == name

end CallKind

/-- Where a method is declared. -/
inductive Origin where
  | application
  /-- In a dependency or in the platform. -/
  | library
deriving DecidableEq, Repr

/-- The name of an origin in raw graphs. -/
def Origin.name : Origin → String
  | .application => "application"
  | .library => "library"

/-- A method as an analyzer names it. -/
structure MethodNode where
  origin : Origin
  id : Int
  /-- The class-file name of the declaring type. -/
  typeName : String
  name : String
  descriptor : String
deriving DecidableEq, Repr

/-- A call from one method to another at one place in the code. -/
structure CallEdge where
  caller : Int
  callee : Int
  kind : CallKind
deriving DecidableEq, Repr

/-- What an analyzer knows of the supertypes of a type, by their class-file names. -/
structure TypeFacts where
  superclass : Option String
  interfaces : List String
deriving DecidableEq, Repr

def nodeIds (nodes : List MethodNode) : List Int := nodes.map MethodNode.id

/-- Both ends of a call are among the identifiers. -/
def CallEdge.within (ids : List Int) (edge : CallEdge) : Prop :=
  edge.caller ∈ ids ∧ edge.callee ∈ ids

instance (ids : List Int) (edge : CallEdge) : Decidable (edge.within ids) :=
  inferInstanceAs (Decidable (_ ∧ _))

/-- Methods, calls and facts on types. -/
structure RawGraph where
  nodes : List MethodNode
  edges : List CallEdge
  /-- What is known of types, by their class-file names. -/
  types : Table String TypeFacts
  nodup : (nodeIds nodes).Nodup
  closed : ∀ edge ∈ edges, edge.within (nodeIds nodes)

end CallGraph
