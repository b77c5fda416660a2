import CallGraph.Decimal.Double
/-!
JSON values. An object is the list of its members in the order in which they stand in the text;
a reader decides whether a repeated name leaves one member or several.
-/
namespace CallGraph

/-- A JSON value, with integers of any size apart from other numbers. -/
inductive Json where
  | null
  | bool (value : Bool)
  | int (value : Int)
  | float (value : Double)
  | string (value : String)
  | array (items : List Json)
  | object (members : List (String × Json))

namespace Json

/-- The integers that documents hold exactly: the signed and the unsigned 64-bit ones. -/
def fitsDocument (i : Int) : Bool := -9223372036854775808 ≤ i && i < 18446744073709551616

mutual

/-- How many containers there are around the innermost part of a value; an empty container has no
parts. -/
def nesting : Json → Nat
  | .array (item :: items) => max item.nesting (nestingOfItems items) + 1
  | .object (m :: members) => max m.2.nesting (nestingOfMembers members) + 1
  | _ => 0

def nestingOfItems : List Json → Nat
  | [] => 0
  | item :: items => max item.nesting (nestingOfItems items)

def nestingOfMembers : List (String × Json) → Nat
  | [] => 0
  | m :: members => max m.2.nesting (nestingOfMembers members)

end

/-- The value of the last member with a name. -/
def member? (name : String) (members : List (String × Json)) : Option Json :=
  (members.reverse.find? fun m => m.1 == name).map Prod.snd

/-- Puts a member into a list: in place of the one with its name, or at the end. -/
def setMember (members : List (String × Json)) (name : String) (value : Json) :
    List (String × Json) :=
  match members with
  | [] => [(name, value)]
  | m :: rest => if m.1 = name then (name, value) :: rest else m :: setMember rest name value

/-- Leaves each name where it stands first, with the value it is given last. -/
def mergeMembers (members : List (String × Json)) : List (String × Json) :=
  members.foldl (fun merged m => setMember merged m.1 m.2) []

end Json

end CallGraph
