import CallGraph.Text.Cut
import CallGraph.Text.Digit
import CallGraph.Xml.Chars
/-!
Names and references, taken off the front of a text. A name that may be qualified holds at most
one colon, with a name on both sides of it.
-/
namespace CallGraph.Xml

def skipSpace (cs : List Char) : List Char := cs.dropWhile isSpace

/-- The text after white space, of which there must be some. -/
def needSpace : List Char → Option (List Char)
  | c :: rest => if isSpace c then some (skipSpace rest) else none
  | [] => none

def takeName : List Char → Option (List Char × List Char)
  | [] => none
  | c :: rest =>
    if isNameStart c then some (c :: rest.takeWhile isNameChar, rest.dropWhile isNameChar) else none

/-- A name, with what stands before its colon if it has one. -/
structure QName where
  space : Option (List Char)
  name : List Char
deriving DecidableEq

def QName.chars (q : QName) : List Char :=
  match q.space with
  | none => q.name
  | some space => space ++ ':' :: q.name

/-- Takes a name with at most one colon in it. -/
def takeQName (cs : List Char) : Option (QName × List Char) := do
  let (first, rest) ← takeName cs
  match rest with
  | ':' :: rest =>
    let (second, rest) ← takeName rest
    return (⟨some first, second⟩, rest)
  | rest => return (⟨none, first⟩, rest)

/-- What a reference stands for. -/
inductive Reference where
  | char (c : Char)
  | entity (name : List Char)
deriving DecidableEq

def predefined : List (List Char × Char) :=
  [(['l', 't'], '<'), (['g', 't'], '>'), (['a', 'm', 'p'], '&'), (['q', 'u', 'o', 't'], '"'),
    (['a', 'p', 'o', 's'], '\'')]

/-- The character of a number, if documents may hold it. -/
def charOfNumber? (n : Nat) : Option Char :=
  if n < 0x110000 ∧ ¬(0xD800 ≤ n ∧ n < 0xE000) ∧ isChar (Char.ofNat n) then some (Char.ofNat n)
  else none

/-- Takes the digits of a character reference and its end. -/
def takeNumber (base : Nat) (cs : List Char) : Option (Reference × List Char) := do
  let isDigit (c : Char) : Bool := (Text.hexValue? c).any (· < base)
  let digits := cs.takeWhile isDigit
  match cs.dropWhile isDigit with
  | ';' :: rest =>
    if digits.isEmpty then none
    else
      let c ← charOfNumber? (Text.ofDigits base (digits.filterMap Text.hexValue?))
      return (.char c, rest)
  | _ => none

def takeReference : List Char → Option (Reference × List Char)
  | '#' :: 'x' :: rest => takeNumber 16 rest
  | '#' :: rest => takeNumber 10 rest
  | cs => do
    let (name, rest) ← takeName cs
    match rest with
    | ';' :: rest =>
      match predefined.lookup name with
      | some c => return (.char c, rest)
      | none => return (.entity name, rest)
    | _ => none

/-- Takes the text up to a mark, and passes over the mark. -/
def takeUntil (mark : List Char) : List Char → Option (List Char × List Char)
  | [] => if mark.isEmpty then some ([], []) else none
  | c :: cs =>
    match Text.afterStart? mark (c :: cs) with
    | some rest => some ([], rest)
    | none => (takeUntil mark cs).map fun (taken, rest) => (c :: taken, rest)

/-- Passes over a comment after its first mark. Two hyphens may stand in it at its end only. -/
def skipComment (cs : List Char) : Option (List Char) := do
  let (_, rest) ← takeUntil ['-', '-'] cs
  Text.afterStart? ['>'] rest

/-- Passes over a processing instruction after its first mark. Its target is a name other than
that of the declaration at the start of a document, in any case. -/
def skipInstruction (cs : List Char) : Option (List Char) := do
  let (target, rest) ← takeName cs
  if target.map Char.toLower = ['x', 'm', 'l'] then none
  else
    match Text.afterStart? ['?', '>'] rest with
    | some rest => return rest
    | none =>
      let rest ← needSpace rest
      let (_, rest) ← takeUntil ['?', '>'] rest
      return rest

/-- Takes text between quotes of either kind. -/
def takeLiteral : List Char → Option (List Char × List Char)
  | '"' :: rest => takeUntil ['"'] rest
  | '\'' :: rest => takeUntil ['\''] rest
  | _ => none

end CallGraph.Xml
