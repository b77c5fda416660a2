import CallGraph.Decimal.Shortest
import CallGraph.Json.Value
import CallGraph.Text.Digit
/-!
Writing JSON, in the two layouts of documents: without any space, or with each item and member on
a line of its own, indented by two spaces for each container around it. In both, an empty
container is two brackets, and only what has to be escaped in a string is escaped.
-/
namespace CallGraph.Json

def writeChar (c : Char) : List Char :=
  match c with
  | '"' => ['\\', '"']
  | '\\' => ['\\', '\\']
  | '\x08' => ['\\', 'b']
  | '\x0c' => ['\\', 'f']
  | '\n' => ['\\', 'n']
  | '\r' => ['\\', 'r']
  | '\t' => ['\\', 't']
  | c => if c.toNat < 0x20 then '\\' :: 'u' :: Text.hexPadded 4 c.toNat else [c]

def writeString (text : String) : List Char :=
  '"' :: text.toList.flatMap writeChar ++ ['"']

/-- How values are laid out. -/
inductive Layout where
  | compact
  | indented
deriving DecidableEq

/-- The break before an item inside so many containers. -/
def Layout.break : Layout → Nat → List Char
  | .compact, _ => []
  | .indented, depth => '\n' :: List.replicate (2 * depth) ' '

/-- What stands between a name and its value. -/
def Layout.colon : Layout → List Char
  | .compact => [':']
  | .indented => [':', ' ']

mutual

def write (layout : Layout) (depth : Nat) : Json → List Char
  | .null => ['n', 'u', 'l', 'l']
  | .bool true => ['t', 'r', 'u', 'e']
  | .bool false => ['f', 'a', 'l', 's', 'e']
  | .int i => i.repr.toList
  | .float d => d.text.toList
  | .string text => writeString text
  | .array [] => ['[', ']']
  | .array (item :: items) =>
    '[' :: layout.break (depth + 1) ++ write layout (depth + 1) item ++
      writeItems layout (depth + 1) items ++ layout.break depth ++ [']']
  | .object [] => ['\x7b', '\x7d']
  | .object ((name, value) :: members) =>
    '\x7b' :: layout.break (depth + 1) ++ writeString name ++ layout.colon ++
      write layout (depth + 1) value ++ writeMembers layout (depth + 1) members ++
      layout.break depth ++ ['\x7d']

/-- The items after the first one, each after a comma. -/
def writeItems (layout : Layout) (depth : Nat) : List Json → List Char
  | [] => []
  | item :: items =>
    ',' :: layout.break depth ++ write layout depth item ++ writeItems layout depth items

/-- The members after the first one, each after a comma. -/
def writeMembers (layout : Layout) (depth : Nat) : List (String × Json) → List Char
  | [] => []
  | (name, value) :: members =>
    ',' :: layout.break depth ++ writeString name ++ layout.colon ++ write layout depth value ++
      writeMembers layout depth members

end

def text (layout : Layout) (value : Json) : String := String.ofList (write layout 0 value)

end CallGraph.Json
