import CallGraph.Decimal.Shortest
import CallGraph.Json.Value
import CallGraph.Platform
import CallGraph.Text.Quoted
/-!
Values in messages. A value is shown with its strings quoted as in any message, lists and
objects with a comma and a space between their parts, and the words `None`, `True` and `False`.
Each container takes room of its own, so a value can be nested too deeply to be shown.
-/
namespace CallGraph.Json

mutual

def shown : Json → String
  | .null => "None"
  | .bool true => "True"
  | .bool false => "False"
  | .int i => i.repr
  | .float d => d.text
  | .string text => Text.quoted text
  | .array items => "[" ++ String.intercalate ", " (shownItems items) ++ "]"
  | .object members => "\x7b" ++ String.intercalate ", " (shownMembers members) ++ "\x7d"

def shownItems : List Json → List String
  | [] => []
  | item :: items => shown item :: shownItems items

def shownMembers : List (String × Json) → List String
  | [] => []
  | (name, value) :: members => (Text.quoted name ++ ": " ++ shown value) :: shownMembers members

end

/-- The text that a value stands for: a string itself, and any other value as it is shown. -/
def asText : Json → String
  | .string text => text
  | value => value.shown

/-- There is no room to show the value. -/
def isTooDeep [Platform] (value : Json) : Bool := Platform.shownNesting < value.nesting

end CallGraph.Json
