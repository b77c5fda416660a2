import CallGraph.Text.Digit
/-!
Shell scripts: commands on lines, each of them words and redirections, joined by what decides
whether the next one runs. Quoted text stands for itself; parameters are left for the run.
-/
namespace CallGraph.Shell

/-- A part of a word. -/
inductive WordPart where
  | text (chars : List Char)
  /-- A parameter by its name; without quotes its value may make several words. -/
  | parameter (name : String) (quoted : Bool)

/-- A word as it is written. -/
abbrev Word := List WordPart

/-- Where a redirection leads. -/
inductive Target where
  | stream (number : Nat)
  | file (name : Word)
  | source (name : Word)

/-- A redirection of a stream. -/
structure Redirection where
  stream : Nat
  target : Target

/-- A command of words and redirections, and the line that it stands on. -/
structure Command where
  line : Nat
  words : List Word
  redirections : List Redirection

/-- When a command runs after the one before it. -/
inductive Connector where
  | always
  | afterSuccess
  | afterFailure
deriving DecidableEq

/-- Commands that each read what the one before it prints, and when they run. -/
structure Statement where
  connector : Connector
  commands : List Command

/-- Statements, one after the other. -/
abbrev Script := List Statement

/-! ## Words -/

/-- How text in a word is quoted. -/
inductive Quotation where
  | none
  | single
  | double

/-- A character that ends a word without quotes. -/
def isWordEnd (c : Char) : Bool := " \t\n;&|<>()".toList.contains c

def isNameChar (c : Char) : Bool := Text.isAsciiLetter c || Text.isAsciiDigit c || c == '_'

/-- Reads the name of a parameter after its mark. -/
def readParameter? : List Char → Option (String × List Char)
  | '\x7b' :: rest =>
    match rest.dropWhile (· != '\x7d') with
    | [] => none
    | _ :: after => some (String.ofList (rest.takeWhile (· != '\x7d')), after)
  | c :: rest =>
    if Text.isAsciiDigit c || "@*#?$".toList.contains c then some (String.singleton c, rest)
    else if isNameChar c then
      some (String.ofList (c :: rest.takeWhile isNameChar), rest.dropWhile isNameChar)
    else none
  | [] => none

/-- Reads the parts of a word. Every step takes a character, so as much fuel as there are
characters and one more is enough. -/
def readParts : Nat → Quotation → List Char → Option (Word × List Char)
  | 0, _, _ => none
  | fuel + 1, quotation, cs =>
    let go (part : WordPart) (next : Quotation) (rest : List Char) : Option (Word × List Char) :=
      (readParts fuel next rest).map fun (parts, rest) => (part :: parts, rest)
    match quotation, cs with
    | .none, [] => some ([], [])
    | _, [] => none
    | .single, '\'' :: rest => readParts fuel .none rest
    | .single, c :: rest => go (.text [c]) .single rest
    | .none, '\'' :: rest => go (.text []) .single rest
    | .none, '"' :: rest => go (.text []) .double rest
    | .double, '"' :: rest => readParts fuel .none rest
    | _, '\\' :: '\n' :: rest => readParts fuel quotation rest
    | .none, '\\' :: c :: rest => go (.text [c]) .none rest
    | .double, '\\' :: c :: rest =>
      if c = '"' ∨ c = '\\' ∨ c = '$' ∨ c = '\x60' then go (.text [c]) .double rest
      else go (.text ['\\', c]) .double rest
    | _, '$' :: '(' :: _ => none
    | _, '\x60' :: _ => none
    | _, '$' :: rest =>
      match readParameter? rest with
      | some (name, rest) =>
        go (.parameter name (match quotation with
          | .double => true
          | _ => false)) quotation rest
      | none => go (.text ['$']) quotation rest
    | .none, c :: rest => if isWordEnd c then some ([], c :: rest) else go (.text [c]) .none rest
    | .double, c :: rest => go (.text [c]) .double rest

def readWord (cs : List Char) : Option (Word × List Char) := readParts (cs.length + 1) .none cs

/-! ## Commands -/

def isBlank (c : Char) : Bool := c == ' ' || c == '\t' || c == '\r'

def readFileName (cs : List Char) : Option (Word × List Char) :=
  match readWord (cs.dropWhile isBlank) with
  | some ([], _) => none
  | found => found

/-- Reads a redirection, if there is one. -/
def readRedirection? (cs : List Char) : Option (Option (Redirection × List Char)) :=
  let digits := cs.takeWhile Text.isAsciiDigit
  let stream (usual : Nat) : Nat :=
    if digits.isEmpty then usual else Text.ofDigits 10 (digits.map fun c => c.toNat - 0x30)
  match cs.dropWhile Text.isAsciiDigit with
  | '>' :: '&' :: c :: rest =>
    some (if Text.isAsciiDigit c then some (⟨stream 1, .stream (c.toNat - 0x30)⟩, rest) else none)
  | '>' :: '>' :: rest =>
    some ((readFileName rest).map fun (name, rest) => (⟨stream 1, .file name⟩, rest))
  | '>' :: rest =>
    some ((readFileName rest).map fun (name, rest) => (⟨stream 1, .file name⟩, rest))
  | '<' :: rest =>
    some ((readFileName rest).map fun (name, rest) => (⟨stream 0, .source name⟩, rest))
  | _ => none

/-- What has been read of a script. -/
structure Draft where
  line : Nat
  done : Script
  connector : Connector
  commands : List Command
  words : List Word
  redirections : List Redirection

namespace Draft

def empty : Draft := ⟨1, [], .always, [], [], []⟩

def endCommand (draft : Draft) : Draft :=
  if draft.words.isEmpty && draft.redirections.isEmpty then draft
  else { draft with
    commands := draft.commands ++ [⟨draft.line, draft.words, draft.redirections⟩]
    words := []
    redirections := [] }

/-- The statement being read ends, and the next one runs as said. -/
def endStatement (draft : Draft) (next : Connector) : Draft :=
  let draft := draft.endCommand
  if draft.commands.isEmpty then draft
  else { draft with
    done := draft.done ++ [⟨draft.connector, draft.commands⟩]
    connector := next
    commands := [] }

end Draft

/-- Reads the statements of a script. Every step takes a character, so as much fuel as there are
characters and one more is enough. -/
def readStatements : Nat → Draft → List Char → Option Script
  | 0, _, _ => none
  | fuel + 1, draft, cs =>
    match cs.dropWhile isBlank with
    | [] => some (draft.endStatement .always).done
    | '#' :: rest => readStatements fuel draft (rest.dropWhile (· != '\n'))
    | '\n' :: rest =>
      let draft := draft.endStatement .always
      readStatements fuel { draft with line := draft.line + 1 } rest
    | ';' :: rest => readStatements fuel (draft.endStatement .always) rest
    | '&' :: '&' :: rest => readStatements fuel (draft.endStatement .afterSuccess) rest
    | '|' :: '|' :: rest => readStatements fuel (draft.endStatement .afterFailure) rest
    | '|' :: rest => readStatements fuel draft.endCommand rest
    | cs =>
      match readRedirection? cs with
      | some none => none
      | some (some (redirection, rest)) =>
        readStatements fuel
          { draft with redirections := draft.redirections ++ [redirection] } rest
      | none =>
        match readWord cs with
        | none => none
        | some ([], _) => none
        | some (word, rest) => readStatements fuel { draft with words := draft.words ++ [word] } rest

/-- Reads a script, if it keeps to commands, quotations and parameters. -/
def readScript (cs : List Char) : Option Script := readStatements (cs.length + 1) .empty cs

end CallGraph.Shell
