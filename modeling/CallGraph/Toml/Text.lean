import CallGraph.Text.Cut
import CallGraph.Text.Digit
/-!
Blanks, comments, strings and keys of TOML. A text has line feeds only; carriage returns before
them are taken out first. Where a text does not follow the rules there is nothing to read, and
where it goes wrong is not reported.
-/
namespace CallGraph.Toml

/-- What is read at the front of a text, and the rest. -/
abbrev Reading (α : Type) := Option (α × List Char)

/-- Writes every line end as a line feed. -/
def unifyLines : List Char → List Char
  | '\r' :: '\n' :: rest => '\n' :: unifyLines rest
  | c :: rest => c :: unifyLines rest
  | [] => []

def isBlank (c : Char) : Bool := c == ' ' || c == '\t'

def isSpace (c : Char) : Bool := isBlank c || c == '\n'

/-- The text from the first character that is no blank. -/
def skipBlanks (cs : List Char) : List Char := cs.dropWhile isBlank

/-- A control character other than a tab. -/
def isControl (c : Char) : Bool := (c.toNat < 0x20 && c != '\t') || c.toNat == 0x7F

/-- A control character other than a tab or a line feed. -/
def isLineControl (c : Char) : Bool := isControl c && c != '\n'

/-- Skips a comment, if there is one, up to the end of its line. -/
def skipComment? : List Char → Option (List Char)
  | '#' :: rest =>
    let (comment, rest) := (rest.takeWhile (· != '\n'), rest.dropWhile (· != '\n'))
    if comment.any isControl then none else some rest
  | cs => some cs

/-- Skips blanks, line feeds and comments. Every comment takes a character, so as much fuel as
there are characters is enough. -/
def skipSpaces? : Nat → List Char → Option (List Char)
  | 0, cs => some cs
  | fuel + 1, cs =>
    match cs.dropWhile isSpace with
    | '#' :: rest => (skipComment? ('#' :: rest)).bind (skipSpaces? fuel)
    | rest => some rest

/-! ## Strings -/

def unescape? : Char → Option Char
  | 'b' => some '\x08'
  | 't' => some '\t'
  | 'n' => some '\n'
  | 'f' => some '\x0c'
  | 'r' => some '\r'
  | '"' => some '"'
  | '\\' => some '\\'
  | _ => none

/-- The character with a number in hexadecimal digits. -/
def charOfHex? (digits : List Char) : Option Char := do
  let n := Text.ofDigits 16 (← digits.mapM Text.hexValue?)
  if h : n.isValidChar then return Char.ofNatAux n h else none

/-- Reads the rest of a string on one line after its opening quote; `acc` holds what was read,
last character first. -/
def readQuoted (acc : List Char) : List Char → Reading String
  | [] => none
  | '"' :: rest => some (String.ofList acc.reverse, rest)
  | '\\' :: 'u' :: a :: b :: c :: d :: rest =>
    match charOfHex? [a, b, c, d] with
    | some char => readQuoted (char :: acc) rest
    | none => none
  | '\\' :: 'U' :: a :: b :: c :: d :: e :: f :: g :: h :: rest =>
    match charOfHex? [a, b, c, d, e, f, g, h] with
    | some char => readQuoted (char :: acc) rest
    | none => none
  | '\\' :: e :: rest =>
    match unescape? e with
    | some char => readQuoted (char :: acc) rest
    | none => none
  | c :: rest => if isControl c then none else readQuoted (c :: acc) rest

/-- Where a string on several lines is read: in its text, or after a backslash at the end of a
line, before or after the line feed. -/
inductive LinePlace where
  | text
  | lineEnd
  | lineStart

/-- Reads the rest of a quoted string on several lines. A backslash at the end of a line takes the
space before the next text with it. -/
def readQuotedLines (acc : List Char) : LinePlace → List Char → Reading (List Char)
  | _, [] => none
  | .lineEnd, c :: rest =>
    if c = '\n' then readQuotedLines acc .lineStart rest
    else if isBlank c then readQuotedLines acc .lineEnd rest
    else none
  | place, c :: rest =>
    let inText := match place with
      | .lineStart => !isSpace c
      | _ => true
    if !inText then readQuotedLines acc .lineStart rest
    else match c, rest with
      | '"', '"' :: '"' :: rest => some (acc.reverse, rest)
      | '\\', 'u' :: a :: b :: c :: d :: rest =>
        match charOfHex? [a, b, c, d] with
        | some char => readQuotedLines (char :: acc) .text rest
        | none => none
      | '\\', 'U' :: a :: b :: c :: d :: e :: f :: g :: h :: rest =>
        match charOfHex? [a, b, c, d, e, f, g, h] with
        | some char => readQuotedLines (char :: acc) .text rest
        | none => none
      | '\\', e :: rest =>
        if e = '\n' then readQuotedLines acc .lineStart rest
        else if isBlank e then readQuotedLines acc .lineEnd rest
        else match unescape? e with
          | some char => readQuotedLines (char :: acc) .text rest
          | none => none
      | c, rest => if isLineControl c then none else readQuotedLines (c :: acc) .text rest

/-- Reads the rest of a literal string on several lines. -/
def readLiteralLines (acc : List Char) : List Char → Reading (List Char)
  | '\'' :: '\'' :: '\'' :: rest => some (acc.reverse, rest)
  | c :: rest => if isLineControl c then none else readLiteralLines (c :: acc) rest
  | [] => none

/-- Reads the rest of a literal string on one line. -/
def readLiteral (cs : List Char) : Reading String :=
  match Text.cutFirst? '\'' cs with
  | some (text, rest) => if text.any isControl then none else some (String.ofList text, rest)
  | none => none

/-- Up to two quotes before the end of a string on several lines belong to it. -/
def withQuotes (quote : Char) (text rest : List Char) : String × List Char :=
  let quotes := (rest.take 2).takeWhile (· == quote)
  (String.ofList (text ++ quotes), rest.drop quotes.length)

/-- Leaves out a line feed at the front. -/
def skipLineFeed : List Char → List Char
  | '\n' :: rest => rest
  | cs => cs

/-- Reads a string of any kind, if the text begins with a quote. -/
def readString? : List Char → Option (Reading String)
  | '"' :: '"' :: '"' :: rest =>
    some ((readQuotedLines [] .text (skipLineFeed rest)).map fun (text, rest) =>
      withQuotes '"' text rest)
  | '"' :: rest => some (readQuoted [] rest)
  | '\'' :: '\'' :: '\'' :: rest =>
    some ((readLiteralLines [] (skipLineFeed rest)).map fun (text, rest) =>
      withQuotes '\'' text rest)
  | '\'' :: rest => some (readLiteral rest)
  | _ => none

/-! ## Keys -/

/-- A character that a key may have without quotes. -/
def isBareChar (c : Char) : Bool :=
  Text.isAsciiLetter c || Text.isAsciiDigit c || c == '-' || c == '_'

/-- Reads a part of a key: bare, quoted or literal. -/
def readKeyPart : List Char → Reading String
  | '"' :: rest => readQuoted [] rest
  | '\'' :: rest => readLiteral rest
  | cs =>
    match cs.takeWhile isBareChar with
    | [] => none
    | part => some (String.ofList part, cs.dropWhile isBareChar)

/-- Reads a key and the blanks after it. Every part takes a character, so as much fuel as there
are characters is enough. -/
def readKeyFrom : Nat → List Char → Option (List String × List Char)
  | 0, _ => none
  | fuel + 1, cs => do
    let (part, rest) ← readKeyPart cs
    match skipBlanks rest with
    | '.' :: rest =>
      let (parts, rest) ← readKeyFrom fuel (skipBlanks rest)
      return (part :: parts, rest)
    | rest => return ([part], rest)

/-- Reads a key and the blanks after it. -/
def readKey (cs : List Char) : Reading (List String) := readKeyFrom cs.length cs

end CallGraph.Toml
