import CallGraph.Json.Writer
import CallGraph.Revision.Basic
import CallGraph.Text.Utf8
/-!
Writing documents. Members stand in a fixed order, supertypes of which nothing is known are left
out, and an unknown version bound is null. A document with an integer that does not fit into 64
bits cannot be written.
-/
namespace CallGraph.Revision

/-- An integer that a document cannot hold. -/
structure IntegerTooLarge where
  value : Int
deriving DecidableEq, Repr

def nullable : Option String → Json
  | none => .null
  | some text => .string text

def stringList (items : List String) : Json := .array (items.map Json.string)

def stringTable (table : Table String String) : Json :=
  .object (table.entries.map fun (name, text) => (name, Json.string text))

def constraintJson (range : Constraint) : Json :=
  .object [("lowerBound", nullable range.lower), ("upperBound", nullable range.upper)]

def dependencyJson (dependency : Dependency) : Json :=
  .object [("forge", .string dependency.forge), ("product", .string dependency.product),
    ("constraints", .array (dependency.constraints.map constraintJson))]

def typeEntryJson (entry : TypeEntry) : Json :=
  .object ([("methods", stringTable entry.methods)] ++
    (entry.superClasses.map fun types => ("superClasses", stringList types)).toList ++
    (entry.superInterfaces.map fun types => ("superInterfaces", stringList types)).toList)

def internalCallJson (call : Int × Int) : Json := .array [.int call.1, .int call.2]

def graphJson (doc : Revision) : Json :=
  .object [("internalCalls", .array (doc.internalCalls.map internalCallJson)),
    ("externalCalls", .object (doc.externalCalls.entries.map fun (key, counts) =>
      (key, stringTable counts)))]

def toJson (doc : Revision) : Json :=
  .object [("forge", .string doc.forge), ("product", .string doc.product),
    ("version", .string doc.version), ("generator", .string doc.generator),
    ("depset", .array (doc.depset.map fun block => .array (block.map dependencyJson))),
    ("cha", .object (doc.cha.entries.map fun (type, entry) => (type, typeEntryJson entry))),
    ("graph", graphJson doc), ("timestamp", .int doc.timestamp)]

/-- The integers of a document, in the order in which they are written. -/
def integers (doc : Revision) : List Int :=
  (doc.internalCalls.flatMap fun call => [call.1, call.2]) ++ [doc.timestamp]

def render (layout : Json.Layout) (doc : Revision) : Except IntegerTooLarge String :=
  match doc.integers.find? fun i => !Json.fitsDocument i with
  | some i => .error ⟨i⟩
  | none => .ok (Json.text layout doc.toJson)

/-- The contents of the file that a document is written to. -/
def fileContents (doc : Revision) : Except IntegerTooLarge Octets := do
  return Text.encodeUtf8 (← doc.render .indented).toList

/-- What a document is on the standard output: one line. -/
def line (doc : Revision) : Except IntegerTooLarge String := do
  return (← doc.render .compact) ++ "\n"

end CallGraph.Revision
