import CallGraph.Text.Quoted
/-!
What can be wrong with the parts or the text of a URI. Each defect keeps the offending text, and
`Defect.message` is the only place that words it.
-/
namespace CallGraph.Uri

/-- The part of a URI that a token stands for. -/
inductive Part where
  | product
  | ns
  | type
  | method
deriving DecidableEq, Repr

/-- The name of a part in messages. -/
def Part.label : Part → String
  | .product => "product"
  | .ns => "namespace"
  | .type => "type"
  | .method => "method"

/-- A reason why parts form no URI, or a text is none. -/
inductive Defect where
  /-- A type or method without a namespace. -/
  | emptyNamespace
  | emptyTypeName
  /-- A simple type name with a dot or a bracket in it. -/
  | reservedInTypeName (name : String)
  | negativeDimensions (dims : Int)
  | emptyMethodName
  /-- A part that is not a token. -/
  | invalidToken (part : Part) (token : String)
  /-- An absolute type fragment that is not a namespace and a name. -/
  | fragmentShape (text : String)
  /-- A relative type fragment where only an absolute one has a meaning. -/
  | fragmentNotAbsolute (text : String)
  /-- A relative type fragment with a slash in it. -/
  | relativeWithSlash (text : String)
  /-- A type fragment whose name cannot be the name of a type. -/
  | unknownType (text : String)
  /-- A method URI that does not begin with a slash. -/
  | noLeadingSlash (text : String)
  | productWithoutPath (text : String)
  | unbalancedParameters (text : String)
  /-- One parameter list, but not the shape of a method URI around it. -/
  | malformed (text : String)
deriving DecidableEq, Repr

def Defect.message : Defect → String
  | .emptyNamespace => "Namespace must not be empty"
  | .emptyTypeName => "Type name must not be empty"
  | .reservedInTypeName name =>
    "Type name may not contain '.', '[' or ']': " ++ Text.quoted name
  | .negativeDimensions dims => "Array dimensions must be non-negative: " ++ dims.repr
  | .emptyMethodName => "Method name must not be empty"
  | .invalidToken part token => "Invalid " ++ part.label ++ " token: " ++ Text.quoted token
  | .fragmentShape text => "Type fragment must be /namespace/Name: " ++ Text.quoted text
  | .fragmentNotAbsolute text => "Type fragment is missing leading '/': " ++ Text.quoted text
  | .relativeWithSlash text => "Relative type fragment may not contain '/': " ++ Text.quoted text
  | .unknownType text => "Unknown type token: " ++ Text.quoted text
  | .noLeadingSlash text => "URI is missing leading '/': " ++ Text.quoted text
  | .productWithoutPath text => "URI has a product but no path: " ++ Text.quoted text
  | .unbalancedParameters text => "Unbalanced parameter list: " ++ Text.quoted text
  | .malformed text => "Malformed method URI: " ++ Text.quoted text

end CallGraph.Uri
