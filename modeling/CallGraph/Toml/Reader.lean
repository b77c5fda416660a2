import CallGraph.Platform
import CallGraph.Text.Numeral
import CallGraph.Text.Utf8
import CallGraph.Toml.Draft
import CallGraph.Toml.Text
/-!
Reading TOML documents, version 1.0. A document is a sequence of lines, each of which gives a key
a value or opens a table. Values inside one another are read by calls inside one another, for
which there has to be room.
-/
namespace CallGraph.Toml

/-- Why a text is no document. -/
inductive Defect where
  /-- The text does not follow the rules. -/
  | invalid
  /-- A decimal integer of more digits than are read. -/
  | tooManyDigits
  /-- A value inside so many others that there is no room to read it. -/
  | tooDeep
deriving DecidableEq, Repr

/-- What is there, or the text does not follow the rules. -/
def wanted {α : Type} (found : Option α) : Except Defect α :=
  match found with
  | some a => .ok a
  | none => .error .invalid

/-! ## Numbers -/

/-- Reads on in digits, between which single underscores may stand; those are left out. -/
def readMoreDigits (isDigit : Char → Bool) : List Char → List Char × List Char
  | '_' :: c :: rest =>
    if isDigit c then
      let (digits, rest) := readMoreDigits isDigit rest
      (c :: digits, rest)
    else ([], '_' :: c :: rest)
  | c :: rest =>
    if isDigit c then
      let (digits, rest) := readMoreDigits isDigit rest
      (c :: digits, rest)
    else ([], c :: rest)
  | [] => ([], [])

/-- Reads one or more digits, between which single underscores may stand. -/
def readDigitGroups? (isDigit : Char → Bool) : List Char → Option (List Char × List Char)
  | c :: rest =>
    if isDigit c then
      let (digits, rest) := readMoreDigits isDigit rest
      some (c :: digits, rest)
    else none
  | [] => none

/-- Reads an integer in a base other than ten. -/
def readBased? : List Char → Option (Nat × List Char)
  | '0' :: mark :: rest =>
    let base? := if mark = 'x' then some 16 else if mark = 'o' then some 8
      else if mark = 'b' then some 2 else none
    base?.bind fun base =>
      let value? (c : Char) : Option Nat := (Text.hexValue? c).filter (· < base)
      (readDigitGroups? (fun c => (value? c).isSome) rest).map fun (digits, rest) =>
        (Text.ofDigits base (digits.filterMap value?), rest)
  | _ => none

/-- Reads a sign, if there is one: the number is below zero. -/
def readSign : List Char → Bool × List Char
  | '-' :: rest => (true, rest)
  | '+' :: rest => (false, rest)
  | cs => (false, cs)

/-- Reads the digits before a decimal point; a zero stands alone. -/
def readWhole? : List Char → Option (List Char × List Char)
  | '0' :: rest => some (['0'], rest)
  | cs => readDigitGroups? Text.isAsciiDigit cs

/-- Reads a decimal point and digits, if they are there. -/
def readFraction? : List Char → Option (List Char × List Char)
  | '.' :: rest => readDigitGroups? Text.isAsciiDigit rest
  | _ => none

/-- Reads an exponent, if there is one. -/
def readExponent? : List Char → Option (Int × List Char)
  | e :: rest =>
    if e = 'e' ∨ e = 'E' then
      let (negative, rest) := readSign rest
      (readDigitGroups? Text.isAsciiDigit rest).map fun (digits, rest) =>
        let n : Int := digitsValue digits
        (if negative then -n else n, rest)
    else none
  | [] => none

def intValue (negative : Bool) (digits : List Char) : Except Defect Value :=
  if Text.maxDigits < digits.length then .error .tooManyDigits
  else
    let n : Int := digitsValue digits
    .ok (.int (if negative then -n else n))

/-- Reads a decimal number; it is an integer if it has neither a fraction nor an exponent. -/
def readDecimal? (cs : List Char) : Option (Except Defect (Value × List Char)) := do
  let (negative, rest) := readSign cs
  let (whole, rest) ← readWhole? rest
  let fraction? := readFraction? rest
  let (fraction, rest) := fraction?.getD ([], rest)
  let exponent? := readExponent? rest
  let (exponent, rest) := exponent?.getD (0, rest)
  if fraction?.isNone && exponent?.isNone then
    return (intValue negative whole).map fun value => (value, rest)
  else
    return .ok (.float (.ofDecimal negative (digitsValue (whole ++ fraction))
      (exponent - fraction.length)), rest)

def names : List (String × Value) :=
  [("true", .bool true), ("false", .bool false), ("inf", .float (.infinite false)),
    ("+inf", .float (.infinite false)), ("-inf", .float (.infinite true)), ("nan", .float .nan),
    ("+nan", .float .nan), ("-nan", .float .nan)]

/-- Reads a value that is neither a string nor a container. -/
def readScalar (cs : List Char) : Except Defect (Value × List Char) :=
  match readMoment? cs with
  | some (moment, rest) => if moment.isReal then .ok (.moment moment, rest) else .error .invalid
  | none =>
    match readBased? cs with
    | some (n, rest) => .ok (.int n, rest)
    | none =>
      match readDecimal? cs with
      | some result => result
      | none => wanted <| names.findSome? fun (name, value) =>
        (Text.afterStart? name.toList cs).map fun rest => (value, rest)

/-! ## Containers -/

/-- The calls that an array adds to those that its items are read in. -/
def arrayCalls : Nat := 2

/-- The calls that a table on one line adds to those that its values are read in. -/
def inlineTableCalls : Nat := 3

def skipSpaces (cs : List Char) : Except Defect (List Char) := wanted (skipSpaces? cs.length cs)

/-- Reads a key and the mark between it and its value. -/
def readKeyMark (cs : List Char) : Except Defect (Key × List Char) := do
  let (key, rest) ← wanted (readKey cs)
  let rest ← wanted (readChar? '=' rest)
  return (key, skipBlanks rest)

section

variable [Platform]

mutual

/-- Reads a value inside so many calls. Every step takes a character, so as much fuel as there are
characters is enough. -/
def readValue (fuel calls : Nat) (cs : List Char) : Except Defect (Value × List Char) :=
  match fuel with
  | 0 => .error .invalid
  | fuel + 1 =>
    if !Platform.roomForToml calls cs then .error .tooDeep
    else match readString? cs with
    | some reading => wanted (reading.map fun (text, rest) => (.string text, rest))
    | none =>
      match cs with
      | '[' :: rest => do
        match ← skipSpaces rest with
        | ']' :: rest => return (.array [], rest)
        | rest =>
          let (items, rest) ← readItems fuel (calls + arrayCalls) rest
          return (.array items, rest)
      | '\x7b' :: rest =>
        match skipBlanks rest with
        | '\x7d' :: rest => .ok (.table [], rest)
        | rest => readMembers fuel (calls + inlineTableCalls) [] [] rest
      | cs => readScalar cs

/-- Reads the items of an array up to its closing bracket; a comma may stand before that. -/
def readItems (fuel calls : Nat) (cs : List Char) : Except Defect (List Value × List Char) :=
  match fuel with
  | 0 => .error .invalid
  | fuel + 1 => do
    let (item, rest) ← readValue fuel calls cs
    match ← skipSpaces rest with
    | ']' :: rest => return ([item], rest)
    | ',' :: rest =>
      match ← skipSpaces rest with
      | ']' :: rest => return ([item], rest)
      | rest =>
        let (items, rest) ← readItems fuel calls rest
        return (item :: items, rest)
    | _ => .error .invalid

/-- Reads the members of a table on one line up to its closing brace. A value that is itself
written in one piece stays as it is. -/
def readMembers (fuel calls : Nat) (members : Members) (frozen : List Key) (cs : List Char) :
    Except Defect (Value × List Char) :=
  match fuel with
  | 0 => .error .invalid
  | fuel + 1 => do
    let (key, rest) ← readKeyMark cs
    let (value, rest) ← readValue fuel calls rest
    if isWithin key frozen then .error .invalid
    else
      let members ← wanted (members.addAt false key value)
      match skipBlanks rest with
      | '\x7d' :: rest => return (.table members, rest)
      | ',' :: rest =>
        readMembers fuel calls members (if value.isContainer then key :: frozen else frozen)
          (skipBlanks rest)
      | _ => .error .invalid

end

/-! ## Statements -/

/-- Reads a statement, if the line has one, in the section with a header. -/
def readStatement (draft : Draft) (header : Key) :
    List Char → Except Defect (Draft × Key × List Char)
  | '[' :: '[' :: rest => do
    let (key, rest) ← wanted (readKey (skipBlanks rest))
    let draft ← wanted (draft.endSection.appendTable key)
    return (draft, key, ← wanted (Text.afterStart? [']', ']'] rest))
  | '[' :: rest => do
    let (key, rest) ← wanted (readKey (skipBlanks rest))
    let draft ← wanted (draft.endSection.openTable key)
    return (draft, key, ← wanted (readChar? ']' rest))
  | cs =>
    if cs.isEmpty ∨ cs.head? = some '\n' ∨ cs.head? = some '#' then .ok (draft, header, cs)
    else do
      let (key, rest) ← readKeyMark cs
      let (value, rest) ← readValue (rest.length + 1) 0 rest
      return (← wanted (draft.assign header key value), header, rest)

/-- Reads lines. Each but the last one takes a character, so as much fuel as there are characters
and one more is enough. -/
def readLines : Nat → Draft → Key → List Char → Except Defect Members
  | 0, _, _, _ => .error .invalid
  | fuel + 1, draft, header, cs => do
    let (draft, header, rest) ← readStatement draft header (skipBlanks cs)
    match ← wanted (skipComment? (skipBlanks rest)) with
    | [] => return draft.root
    | '\n' :: rest => readLines fuel draft header rest
    | _ => .error .invalid

def read (cs : List Char) : Except Defect Members :=
  let cs := unifyLines cs
  readLines (cs.length + 1) .empty [] cs

end

end CallGraph.Toml
