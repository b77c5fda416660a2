import CallGraph.Revision.Basic
import CallGraph.Text.Blank
import CallGraph.Xml.Element
/-!
Dependencies declared in a build file. Only the document itself is read: what it inherits from a
parent and what it declares for others to use does not count. Elements are found by their local
names, in whatever namespace they are.

Each dependency is recorded with one version for both bounds. A version that refers to a property
has the value of the property, or is unknown where the document does not define it.
-/
namespace CallGraph.Maven.Pom

open Xml (Node)

/-- A reason why a build file yields no dependencies. -/
inductive Defect where
  /-- The file is no document that can be read. -/
  | unreadable (defect : Xml.Defect)
  /-- A dependency does not say on what. -/
  | incompleteDependency
deriving DecidableEq, Repr

/-- The text of an element, without blanks at its ends. -/
def trimmedText (content : List Node) : String := Text.trim (Node.textOf content)

def rootContent : Node → List Node
  | .element _ _ children => children
  | .text _ => []

/-- The elements of a content, with their local names. -/
def namedElements (content : List Node) : List (String × List Node) :=
  content.filterMap fun
    | .element _ name children => some (name, children)
    | .text _ => none

/-- The properties that the document defines, each with the value given last. -/
def properties (content : List Node) : Table String String :=
  match Node.firstNamed? "properties" content with
  | none => ∅
  | some block => Table.ofList ((namedElements block).map fun (name, inner) => (name, trimmedText inner))

/-- What a reference to a property begins with. -/
def referenceMark : List Char := ['$', '\x7b']

/-- The version that a text stands for; no text stands for any version. The name of a property is
the text after the mark without its last character. -/
def resolveVersion (properties : Table String String) : Option String → Option String
  | none => some wildcardVersion
  | some text =>
    match Text.afterStart? referenceMark text.toList with
    | some rest => properties.get? (String.ofList rest.dropLast)
    | none => some text

/-- A dependency. Group and artifact must be there, the version may be left out. -/
def readDependency (properties : Table String String) (content : List Node) :
    Except Defect Dependency :=
  match Node.firstNamed? "groupId" content, Node.firstNamed? "artifactId" content with
  | some group, some artifact =>
    let version := resolveVersion properties ((Node.firstNamed? "version" content).map trimmedText)
    .ok ⟨forgeName, trimmedText group ++ ":" ++ trimmedText artifact, [.pinned version], by simp⟩
  | _, _ => .error .incompleteDependency

/-- The dependencies of a block, in order. -/
def readBlock (properties : Table String String) (block : List Node) :
    Except Defect (List Dependency) :=
  (Node.childrenNamed "dependency" block).mapM (readDependency properties)

/-- The blocks of dependencies: that of the document, then those of the profiles in order. Only
the first block of each counts, and only the first list of profiles. -/
def blocks (content : List Node) : List (List Node) :=
  let profiles := match Node.firstNamed? "profiles" content with
    | some profiles => Node.childrenNamed "profile" profiles
    | none => []
  (content :: profiles).filterMap (Node.firstNamed? "dependencies")

/-- The dependencies of a document. Blocks without any are left out. -/
def dependencySet (content : List Node) : Except Defect DependencySet := do
  let resolved ← (blocks content).mapM (readBlock (properties content))
  return resolved.filter fun block => !block.isEmpty

/-- The content of the outermost element of a build file. -/
def parse (octets : Octets) : Except Defect (List Node) :=
  match Xml.parse octets with
  | .ok root => .ok (rootContent root)
  | .error defect => .error (.unreadable defect)

/-- The dependencies that a build file declares. -/
def readDependencies (octets : Octets) : Except Defect DependencySet := do
  dependencySet (← parse octets)

end CallGraph.Maven.Pom
