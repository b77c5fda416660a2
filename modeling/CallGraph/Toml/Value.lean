import CallGraph.Decimal.Shortest
import CallGraph.Text.Quoted
import CallGraph.Toml.Moment
/-!
TOML values. A table is the list of its members in the order in which they were first written.
-/
namespace CallGraph.Toml

/-- A TOML value. -/
inductive Value where
  | string (text : String)
  | int (value : Int)
  | float (value : Double)
  | bool (value : Bool)
  | moment (moment : Moment)
  | array (items : List Value)
  | table (members : List (String × Value))

/-- The members of a table. -/
abbrev Members := List (String × Value)

namespace Members

def get? (members : Members) (name : String) : Option Value := List.lookup name members

/-- Puts a member into a table: in place of the one with its name, or at the end. -/
def set (members : Members) (name : String) (value : Value) : Members :=
  match members with
  | [] => [(name, value)]
  | m :: rest => if m.1 = name then (name, value) :: rest else m :: set rest name value

end Members

namespace Value

def isContainer : Value → Bool
  | .array _ => true
  | .table _ => true
  | _ => false

mutual

def shown : Value → String
  | .string text => Text.quoted text
  | .int i => i.repr
  | .float d => d.text
  | .bool true => "True"
  | .bool false => "False"
  | .moment m => m.shown
  | .array items => "[" ++ ", ".intercalate (shownItems items) ++ "]"
  | .table members => "\x7b" ++ ", ".intercalate (shownMembers members) ++ "\x7d"

def shownItems : List Value → List String
  | [] => []
  | item :: items => shown item :: shownItems items

def shownMembers : List (String × Value) → List String
  | [] => []
  | (name, value) :: members => (Text.quoted name ++ ": " ++ shown value) :: shownMembers members

end

end Value

end CallGraph.Toml
