/-!
What can be wrong with a value that should follow a schema. A schema reports every defect of a
value at once, each with the place where it is.
-/
namespace CallGraph.Schema

/-- One step from a container to a value in it. -/
inductive Step where
  | key (name : String)
  | index (place : Nat)
deriving DecidableEq, Repr

/-- The kinds of defects. -/
inductive Kind where
  | jsonInvalid
  /-- A member that must be there is not. -/
  | missing
  /-- A member that may not be there is. -/
  | extraForbidden
  | stringType
  | listType
  /-- Not an object, where any names are allowed. -/
  | dictType
  /-- Not an object, where its members are fixed. -/
  | modelType
  /-- Not a list, where its length is fixed. -/
  | tupleType
  /-- A list with more items than allowed. -/
  | tooLong
  /-- A list with fewer items than allowed. -/
  | tooShort
  | literalError
  /-- Of a type that no integer is made from. -/
  | intType
  | intParsing
  | intFromFloat
  /-- A number or string too large to be made an integer. -/
  | intParsingSize
  | finiteNumber
  /-- Of a type that no number is made from. -/
  | floatType
  | floatParsing
  /-- A number that is not greater than the bound. -/
  | greaterThan
  /-- No tag to choose the kind of a node by. -/
  | tagNotFound
  /-- A tag that chooses no kind of node. -/
  | tagInvalid
  /-- A condition of the domain that does not hold. -/
  | condition (text : String)
deriving DecidableEq, Repr

/-- The identifier of a kind of defect. -/
def Kind.name : Kind → String
  | .jsonInvalid => "json_invalid"
  | .missing => "missing"
  | .extraForbidden => "extra_forbidden"
  | .stringType => "string_type"
  | .listType => "list_type"
  | .dictType => "dict_type"
  | .modelType => "model_type"
  | .tupleType => "tuple_type"
  | .tooLong => "too_long"
  | .tooShort => "too_short"
  | .literalError => "literal_error"
  | .intType => "int_type"
  | .intParsing => "int_parsing"
  | .intFromFloat => "int_from_float"
  | .intParsingSize => "int_parsing_size"
  | .finiteNumber => "finite_number"
  | .floatType => "float_type"
  | .floatParsing => "float_parsing"
  | .greaterThan => "greater_than"
  | .tagNotFound => "union_tag_not_found"
  | .tagInvalid => "union_tag_invalid"
  | .condition _ => "value_error"

/-- A defect and the place where it is, from the outermost container inwards. -/
structure Defect where
  location : List Step
  kind : Kind
deriving DecidableEq, Repr

end CallGraph.Schema
