import CallGraph.Text.Cut
/-!
Command lines in one text. Blanks part the words; single quotes keep everything between them,
double quotes everything but a backslash before a quote or a backslash, and elsewhere a backslash
keeps the character after it. A quotation that does not end makes no command line.
-/
namespace CallGraph.CommandLine

def partsWords (c : Char) : Bool := c == ' ' || c == '\t' || c == '\n' || c == '\r'

/-- What surrounds a character. -/
inductive Quotes where
  | none
  | single
  | double

/-- Reads the rest of a command line, given the word that has been begun, if there is one. -/
def readWords : Quotes → Option (List Char) → List Char → Option (List (List Char))
  | .none, word?, [] => some word?.toList
  | _, _, [] => Option.none
  | .none, word?, '\'' :: rest => readWords .single (some (word?.getD [])) rest
  | .none, word?, '"' :: rest => readWords .double (some (word?.getD [])) rest
  | .single, word?, '\'' :: rest => readWords .none word? rest
  | .double, word?, '"' :: rest => readWords .none word? rest
  | .none, word?, '\\' :: c :: rest => readWords .none (some (word?.getD [] ++ [c])) rest
  | .none, _, ['\\'] => Option.none
  | .double, word?, '\\' :: c :: rest =>
    if c = '"' ∨ c = '\\' then readWords .double (some (word?.getD [] ++ [c])) rest
    else readWords .double (some (word?.getD [] ++ ['\\', c])) rest
  | .none, word?, c :: rest =>
    if partsWords c then (readWords .none Option.none rest).map (word?.toList ++ ·)
    else readWords .none (some (word?.getD [] ++ [c])) rest
  | quotes, word?, c :: rest => readWords quotes (some (word?.getD [] ++ [c])) rest

def splitWords (text : String) : Option (List String) :=
  (readWords .none Option.none text.toList).map fun words => words.map String.ofList

end CallGraph.CommandLine
