import CallGraph.Xml.Token
/-!
Namespaces. An attribute named `xmlns`, or with that prefix, binds a prefix to a namespace for its
element and everything in it. A name with a prefix that nothing binds has no meaning, and two
attributes of one element may not have the same name once prefixes are replaced by namespaces.
-/
namespace CallGraph.Xml

/-- The prefixes in force, the innermost first; no prefix stands for names without one. -/
abbrev Bindings := List (Option (List Char) × List Char)

def xmlWord : List Char := ['x', 'm', 'l']

/-- The name of the attributes that bind prefixes. -/
def xmlnsWord : List Char := ['x', 'm', 'l', 'n', 's']

/-- The namespace that belongs to the prefix that is always bound. -/
def xmlNamespace : List Char := "http://www.w3.org/XML/1998/namespace".toList

/-- The namespace of the attributes that bind prefixes. -/
def xmlnsNamespace : List Char := "http://www.w3.org/2000/xmlns/".toList

/-- The bindings at the start of a document. -/
def initialBindings : Bindings := [(some xmlWord, xmlNamespace)]

/-- What an attribute binds: a prefix, or names without one. -/
def boundBy (name : QName) : Option (Option (List Char)) :=
  match name.space with
  | none => if name.name = xmlnsWord then some none else none
  | some space => if space = xmlnsWord then some (some name.name) else none

/-- Binds a prefix. A prefix cannot be unbound, and the two namespaces of the language itself go
with their own prefixes only. The address of a namespace holds no closing brace. -/
def bind (bindings : Bindings) (space : Option (List Char)) (address : List Char) :
    Option Bindings :=
  if space.isSome ∧ address.isEmpty then none
  else if space = some xmlnsWord then none
  else if (space = some xmlWord) != (address = xmlNamespace) then none
  else if address = xmlnsNamespace then none
  else if address.contains '\x7d' then none
  else some ((space, address) :: bindings)

def elementSpace (bindings : Bindings) (name : QName) : Option (List Char) :=
  match name.space with
  | none => some ((bindings.lookup none).getD [])
  | some space => bindings.lookup (some space)

/-- The namespace and the name of an attribute; without a prefix, an attribute has none. -/
def attributeName (bindings : Bindings) (name : QName) : Option (List Char × List Char) :=
  match name.space with
  | none => some ([], name.name)
  | some space => (bindings.lookup (some space)).map fun address => (address, name.name)

def allDistinct {α : Type} [DecidableEq α] : List α → Bool
  | [] => true
  | a :: rest => !rest.contains a && allDistinct rest

/-- The bindings inside an element with the given attributes, if these are in order. -/
def enter (bindings : Bindings) (attributes : List (QName × List Char)) : Option Bindings := do
  if !allDistinct (attributes.map fun a => a.1.chars) then none
  else
    let inner ← attributes.foldlM (fun bound a =>
      match boundBy a.1 with
      | some space => bind bound space a.2
      | none => some bound) bindings
    let names ← (attributes.filter fun a => (boundBy a.1).isNone).mapM fun a => attributeName inner a.1
    if allDistinct names then return inner else none

end CallGraph.Xml
