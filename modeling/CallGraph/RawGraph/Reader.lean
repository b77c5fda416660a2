import CallGraph.Json.Reader
import CallGraph.RawGraph.Basic
import CallGraph.Schema.Container
/-!
Reading raw call graphs. The text is JSON, nothing may be left out that has no default, and no
unknown member may be there. That identifiers are distinct and calls stay inside the graph is
looked at once everything else is in order.
-/
namespace CallGraph.RawGraph

open Schema

def methodMembers : List String := ["id", "type", "name", "descriptor", "origin"]

def readMethod (origin : Origin) (members : List (String × Json)) : Check MethodNode :=
  Check.keeping
    (((required members "id" [] integer).both
      ((required members "type" [] string).both
        ((required members "name" [] string).both
          (required members "descriptor" [] string)))).map
      fun (id, typeName, name, descriptor) => ⟨origin, id, typeName, name, descriptor⟩)
    (onlyMembers methodMembers members)

/-- A method. Its origin says of which kind it is, and defects are reported below it. -/
def readNode : Json → Check MethodNode
  | .object members =>
    match Json.member? "origin" members with
    | none => .fail .tagNotFound
    | some (.string "application") =>
      (readMethod .application members).under (.key Origin.application.name)
    | some (.string "library") => (readMethod .library members).under (.key Origin.library.name)
    | some _ => .fail .tagInvalid
  | _ => .fail .dictType

/-- A kind of call, by its name. -/
def readKind : Json → Check CallKind
  | .string name =>
    match CallKind.ofName? name with
    | some kind => .ok kind
    | none => .fail .literalError
  | _ => .fail .literalError

def readEdge : Json → Check CallEdge :=
  objectOf fun members =>
    Check.keeping
      (((required members "caller" [] integer).both
        ((required members "callee" [] integer).both
          (required members "kind" [] readKind))).map
        fun (caller, callee, kind) => ⟨caller, callee, kind⟩)
      (onlyMembers ["caller", "callee", "kind"] members)

/-- What is known of a type; of what is not said, nothing is known. -/
def readFacts : Json → Check TypeFacts :=
  objectOf fun members =>
    Check.keeping
      (((optional members "superclass" [] none stringOrNull).both
        (optional members "interfaces" [] [] (listOf string))).map
        fun (superclass, interfaces) => ⟨superclass, interfaces⟩)
      (onlyMembers ["superclass", "interfaces"] members)

/-- The wording for a call that leaves the graph. -/
def unknownNode (edge : CallEdge) : String :=
  "edge " ++ edge.caller.repr ++ "->" ++ edge.callee.repr ++ " references an unknown node"

/-- A graph from its parts, if identifiers are distinct and calls stay inside. -/
def ofParts (nodes : List MethodNode) (edges : List CallEdge) (types : Table String TypeFacts) :
    Check RawGraph :=
  if nodup : (nodeIds nodes).Nodup then
    match h : edges.find? fun edge => !decide (edge.within (nodeIds nodes)) with
    | some edge => .fail (.condition (unknownNode edge))
    | none => .ok ⟨nodes, edges, types, nodup, by simpa using h⟩
  else .fail (.condition "node ids must be unique")

def ofJson : Json → Check RawGraph :=
  objectOf fun members =>
    let parts := Check.keeping
      ((optional members "nodes" [] [] (listOf readNode)).both
        ((optional members "edges" [] [] (listOf readEdge)).both
          (optional members "types" [] [] (entriesOf readFacts))))
      (onlyMembers ["nodes", "edges", "types"] members)
    match parts with
    | .ok (nodes, edges, types) => ofParts nodes edges (Table.ofList types)
    | .error defects => .error defects

/-- The graph that a file or an analyzer's output holds. -/
def ofOctets (octets : Octets) : Check RawGraph :=
  match Json.ofOctets? .analyzer octets with
  | some value => ofJson value
  | none => .fail .jsonInvalid

end CallGraph.RawGraph
