import CallGraph.Text.Cut
import CallGraph.Text.Percent
import CallGraph.Uri.Defect
/-!
Types and their URIs. A type has a namespace, a simple name and a number of array dimensions.
Its URI is `/namespace/Name`, followed by one bracket pair, escaped, for each dimension; the
same type has a shorter form, without the namespace, inside the URI of a method that lives in
the same namespace.

A simple name holds no dot and no bracket. The escaped brackets at the end of a URI are
therefore always dimensions, and reading takes off as many as there are.
-/
namespace CallGraph

def Uri.readName (part : Uri.Part) (token : List Char) : Except Uri.Defect String :=
  if Text.isToken token then .ok (String.ofList (Text.decodeEscapes token))
  else .error (.invalidToken part (String.ofList token))

/-- A simple type name: not empty, and without dots and brackets. -/
def isTypeName (name : String) : Bool :=
  !name.toList.isEmpty && name.toList.all fun c => c != '.' && c != '[' && c != ']'

/-- A type, possibly an array type. -/
structure TypeUri where
  /-- The package of the type, with dots. -/
  ns : String
  /-- The simple name of the element type. -/
  name : String
  dims : Nat
  ns_ne : ns ≠ ""
  name_ok : isTypeName name = true
deriving DecidableEq

namespace TypeUri

/-- The namespace of the language's own types, the primitive ones among them. -/
def javaLang : String := "java.lang"

/-- The namespace that stands for the unnamed package. -/
def defaultNamespace : String := "(default)"

/-- The names that the primitive types have in `java.lang`. -/
def primitiveNames : List String :=
  ["VoidType", "BooleanType", "ByteType", "CharType", "ShortType", "IntType", "LongType",
    "FloatType", "DoubleType"]

/-- The conditions on a simple name, in the order in which they are reported. -/
def checkName (name : String) : Except Uri.Defect { n : String // isTypeName n = true } :=
  if h : isTypeName name = true then .ok ⟨name, h⟩
  else if name = "" then .error .emptyTypeName
  else .error (.reservedInTypeName name)

/-- A type from its parts, if they form one. -/
def make (ns name : String) (dims : Int) : Except Uri.Defect TypeUri :=
  if h : ns = "" then .error .emptyNamespace
  else match checkName name with
    | .error defect => .error defect
    | .ok ⟨name, ok⟩ =>
      if dims < 0 then .error (.negativeDimensions dims)
      else .ok ⟨ns, name, dims.toNat, h, ok⟩

/-- Element types that are primitive; arrays of them count as well. -/
def isPrimitive (type : TypeUri) : Bool :=
  type.ns == javaLang && primitiveNames.contains type.name

def element (type : TypeUri) : TypeUri := { type with dims := 0 }

/-- One array dimension: an escaped bracket pair. -/
def bracketPair : List Char := ['%', '5', 'B', '%', '5', 'D']

/-- The bare form: the name and the dimensions. -/
def bareChars (type : TypeUri) : List Char :=
  Text.encodeName type.name.toList ++ (List.replicate type.dims bracketPair).flatten

/-- The URI of the type, or its bare form where it lives in the given namespace. -/
def fragmentChars (type : TypeUri) (relativeTo : Option String) : List Char :=
  if relativeTo = some type.ns then type.bareChars
  else '/' :: Text.encodeName type.ns.toList ++ '/' :: type.bareChars

/-- The URI of the type, or its bare form where it lives in the given namespace. -/
def fragment (type : TypeUri) (relativeTo : Option String) : String :=
  String.ofList (type.fragmentChars relativeTo)

def text (type : TypeUri) : String := type.fragment none

/-- Takes the dimensions off a fragment that is given back to front. -/
def peelDims : List Char → Nat × List Char
  | 'D' :: '5' :: '%' :: 'B' :: '5' :: '%' :: rest =>
    let (dims, name) := peelDims rest
    (dims + 1, name)
  | name => (0, name)

/-- Reads what follows the namespace of a fragment; `whole` is the fragment for messages. -/
def ofToken (ns : String) (token : List Char) (whole : String) : Except Uri.Defect TypeUri :=
  let (dims, name) := peelDims token.reverse
  match name.reverse with
  | [] => .error (.unknownType whole)
  | token => do
    let name ← Uri.readName .type token
    if isTypeName name then make ns name dims else throw (.unknownType whole)

/-- Reads a type fragment. A bare one belongs to the given namespace, and is refused where there
is none. -/
def parse (fragment : String) (relativeTo : Option String) : Except Uri.Defect TypeUri :=
  match fragment.toList with
  | '/' :: path =>
    match Text.fields '/' path with
    | [ns, token] => do
      let ns ← Uri.readName .ns ns
      ofToken ns token fragment
    | _ => .error (.fragmentShape fragment)
  | token =>
    match relativeTo with
    | none => .error (.fragmentNotAbsolute fragment)
    | some ns =>
      if token.contains '/' then .error (.relativeWithSlash fragment)
      else ofToken ns token fragment

end TypeUri

end CallGraph
