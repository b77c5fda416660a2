import CallGraph.Json.Value
import CallGraph.Text.Cut
import CallGraph.Text.Utf8
/-!
Reading JSON. The grammar is that of RFC 8259 without extensions; `Rules` says what the grammar
leaves open: how deep containers may nest, which numbers are kept exactly, and what a repeated
name means. A text that is no JSON has no value; where it goes wrong is not reported.
-/
namespace CallGraph.Json

/-- What one kind of text allows beyond the grammar. -/
structure Rules where
  /-- The greatest number of containers around a value. -/
  maxDepth : Nat
  /-- Integers of any size stay integers; otherwise those beyond 64 bits become doubles. -/
  wideIntegers : Bool
  /-- Not-a-number, the infinities and numerals of too great a magnitude are numbers. -/
  specialNumbers : Bool
  /-- A repeated name gives its member a new value; otherwise every member is kept. -/
  mergeNames : Bool

def Rules.strict : Rules := ⟨1024, false, false, true⟩

/-- The rules for what an analyzer prints. -/
def Rules.analyzer : Rules := ⟨201, true, true, false⟩

def isSpace (c : Char) : Bool := c == ' ' || c == '\t' || c == '\n' || c == '\r'

/-- The text from the next token on. -/
def skipSpace (cs : List Char) : List Char := cs.dropWhile isSpace

def hex4? (a b c d : Char) : Option Nat := do
  return Text.ofDigits 16 [← Text.hexValue? a, ← Text.hexValue? b, ← Text.hexValue? c,
    ← Text.hexValue? d]

def unescape? : Char → Option Char
  | '"' => some '"'
  | '\\' => some '\\'
  | '/' => some '/'
  | 'b' => some '\x08'
  | 'f' => some '\x0c'
  | 'n' => some '\n'
  | 'r' => some '\r'
  | 't' => some '\t'
  | _ => none

def ofSurrogates (high low : Nat) : Char :=
  Char.ofNat (0x10000 + (high - 0xD800) * 0x400 + (low - 0xDC00))

/-- Reads the rest of a string after its opening quote; `acc` holds what was read, last character
first. A surrogate counts only as half of a pair. -/
def readChars (acc : List Char) : List Char → Option (List Char × List Char)
  | [] => none
  | '"' :: rest => some (acc.reverse, rest)
  | '\\' :: 'u' :: a :: b :: c :: d :: rest =>
    match hex4? a b c d with
    | none => none
    | some unit =>
      if 0xD800 ≤ unit ∧ unit < 0xDC00 then
        match rest with
        | '\\' :: 'u' :: a :: b :: c :: d :: rest =>
          match hex4? a b c d with
          | none => none
          | some low =>
            if 0xDC00 ≤ low ∧ low < 0xE000 then readChars (ofSurrogates unit low :: acc) rest
            else none
        | _ => none
      else if 0xDC00 ≤ unit ∧ unit < 0xE000 then none
      else readChars (Char.ofNat unit :: acc) rest
  | '\\' :: e :: rest =>
    match unescape? e with
    | some c => readChars (c :: acc) rest
    | none => none
  | c :: rest => if c.toNat < 0x20 then none else readChars (c :: acc) rest

def natOfDigits (digits : List Char) : Nat :=
  Text.ofDigits 10 (digits.map fun c => c.toNat - 0x30)

/-- The digits at the front of a text, and the rest. -/
def spanDigits (cs : List Char) : List Char × List Char :=
  (cs.takeWhile Text.isAsciiDigit, cs.dropWhile Text.isAsciiDigit)

/-- A fraction, if there is one: its digits. No digits after the point is an error. -/
def readFraction : List Char → Option (List Char × List Char)
  | '.' :: rest =>
    match spanDigits rest with
    | ([], _) => none
    | found => some found
  | rest => some ([], rest)

/-- An exponent, if there is one. No digits in it is an error. -/
def readExponent : List Char → Option (Option Int × List Char)
  | e :: rest =>
    if e = 'e' ∨ e = 'E' then
      let (negative, rest) := match rest with
        | '-' :: rest => (true, rest)
        | '+' :: rest => (false, rest)
        | rest => (false, rest)
      match spanDigits rest with
      | ([], _) => none
      | (digits, rest) =>
        let size : Int := natOfDigits digits
        some (some (if negative then -size else size), rest)
    else some (none, e :: rest)
  | [] => some (none, [])

/-- A number that is no integer, where the rules allow its magnitude. -/
def floatValue? (rules : Rules) (value : Double) : Option Json :=
  if value.isFinite || rules.specialNumbers then some (.float value) else none

/-- An integer as the rules keep it. Numerals of more than 4300 digits are no integers. -/
def intValue? (rules : Rules) (negative : Bool) (digits : List Char) : Option Json :=
  let magnitude := natOfDigits digits
  let value : Int := if negative then -(magnitude : Int) else magnitude
  if rules.wideIntegers then
    if digits.length ≤ 4300 then some (.int value) else none
  else if fitsDocument value then some (.int value)
  else floatValue? rules (.ofDecimal negative magnitude 0)

def readMagnitude (rules : Rules) (negative : Bool) (cs : List Char) :
    Option (Json × List Char) := do
  let (whole, rest) := spanDigits cs
  if whole.isEmpty || (whole.length > 1 && whole.head? == some '0') then none
  else
    let (fraction, rest) ← readFraction rest
    let (exponent?, rest) ← readExponent rest
    if fraction.isEmpty && exponent?.isNone then
      return (← intValue? rules negative whole, rest)
    else
      let exponent := exponent?.getD 0 - fraction.length
      return (← floatValue? rules (.ofDecimal negative (natOfDigits (whole ++ fraction)) exponent),
        rest)

/-- The names of numbers without digits, and what they stand for. -/
def specialNumbers : List (String × Double) :=
  [("NaN", .nan), ("Infinity", .infinite false), ("-Infinity", .infinite true)]

/-- The names of the other values without digits, and what they stand for. -/
def literals : List (String × Json) :=
  [("null", .null), ("true", .bool true), ("false", .bool false)]

def readNamed (names : List (String × Json)) (cs : List Char) : Option (Json × List Char) :=
  names.findSome? fun (name, value) =>
    (Text.afterStart? name.toList cs).map fun rest => (value, rest)

/-- Reads a value that is neither a string nor a container. -/
def readScalar (rules : Rules) (cs : List Char) : Option (Json × List Char) :=
  let specials := if rules.specialNumbers then specialNumbers.map fun (n, d) => (n, Json.float d)
    else []
  match readNamed (literals ++ specials) cs with
  | some found => some found
  | none =>
    match cs with
    | '-' :: rest => readMagnitude rules true rest
    | cs => readMagnitude rules false cs

def objectOf (rules : Rules) (members : List (String × Json)) : Json :=
  .object (if rules.mergeNames then mergeMembers members else members)

mutual

/-- Reads a value inside so many containers. Every step takes a character, so as much fuel as
there are characters is enough. -/
def readValue (rules : Rules) : Nat → Nat → List Char → Option (Json × List Char)
  | 0, _, _ => none
  | fuel + 1, depth, cs =>
    match skipSpace cs with
    | '"' :: rest => (readChars [] rest).map fun (text, rest) => (.string (String.ofList text), rest)
    | '[' :: rest =>
      match skipSpace rest with
      | ']' :: rest => some (.array [], rest)
      | rest =>
        if depth < rules.maxDepth then
          (readItems rules fuel (depth + 1) rest).map fun (items, rest) => (.array items, rest)
        else none
    | '\x7b' :: rest =>
      match skipSpace rest with
      | '\x7d' :: rest => some (.object [], rest)
      | rest =>
        if depth < rules.maxDepth then
          (readMembers rules fuel (depth + 1) rest).map fun (members, rest) =>
            (objectOf rules members, rest)
        else none
    | cs => readScalar rules cs

/-- Reads the items of an array up to its closing bracket. -/
def readItems (rules : Rules) : Nat → Nat → List Char → Option (List Json × List Char)
  | 0, _, _ => none
  | fuel + 1, depth, cs => do
    let (item, rest) ← readValue rules fuel depth cs
    match skipSpace rest with
    | ']' :: rest => return ([item], rest)
    | ',' :: rest =>
      let (items, rest) ← readItems rules fuel depth rest
      return (item :: items, rest)
    | _ => none

/-- Reads the members of an object up to its closing brace. -/
def readMembers (rules : Rules) :
    Nat → Nat → List Char → Option (List (String × Json) × List Char)
  | 0, _, _ => none
  | fuel + 1, depth, cs =>
    match skipSpace cs with
    | '"' :: rest => do
      let (name, rest) ← readChars [] rest
      match skipSpace rest with
      | ':' :: rest =>
        let (value, rest) ← readValue rules fuel depth rest
        let member := (String.ofList name, value)
        match skipSpace rest with
        | '\x7d' :: rest => return ([member], rest)
        | ',' :: rest =>
          let (members, rest) ← readMembers rules fuel depth rest
          return (member :: members, rest)
        | _ => none
      | _ => none
    | _ => none

end

def ofChars? (rules : Rules) (cs : List Char) : Option Json :=
  match readValue rules (cs.length + 1) 0 cs with
  | some (value, rest) => if (skipSpace rest).isEmpty then some value else none
  | none => none

/-- The value of a text in UTF-8. -/
def ofOctets? (rules : Rules) (octets : Octets) : Option Json :=
  (Text.decodeUtf8? octets).bind (ofChars? rules)

end CallGraph.Json
