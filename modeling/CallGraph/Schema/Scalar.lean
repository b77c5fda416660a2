import CallGraph.Json.Value
import CallGraph.Schema.Check
import CallGraph.Text.Blank
import CallGraph.Text.Cut
import CallGraph.Text.Digit
/-!
Integers, numbers and strings in a schema. An integer is also made from a number without a
fraction, a truth value or a decimal text, and a number from a truth value or a decimal text;
a string is made from nothing else.
-/
namespace CallGraph.Schema

/-- Texts longer than this are not read as integers. -/
def maxIntegerText : Nat := 4300

/-- Digits with single underscores between them, without the underscores. -/
def joinDigits? : List Char → Option (List Char)
  | [] => none
  | [d] => if Text.isAsciiDigit d then some [d] else none
  | d :: '_' :: rest =>
    if Text.isAsciiDigit d then (joinDigits? rest).map (d :: ·) else none
  | d :: rest => if Text.isAsciiDigit d then (joinDigits? rest).map (d :: ·) else none

/-- A numeral without a sign: digits, and perhaps a fraction of zeros. -/
def magnitude? (cs : List Char) : Option Nat :=
  let whole? := match Text.cutFirst? '.' cs with
    | none => some cs
    | some (whole, fraction) =>
      if fraction.isEmpty || !fraction.all (· == '0') then none else some whole
  (whole?.bind joinDigits?).map fun digits =>
    Text.ofDigits 10 (digits.map fun c => c.toNat - 0x30)

/-- The integer that a text stands for: white space at its ends does not count, and a sign may
stand in front. -/
def integerText? (cs : List Char) : Option Int :=
  match Text.trimBy Text.isWhiteSpace cs with
  | '-' :: rest => (magnitude? rest).map fun n => -(n : Int)
  | '+' :: rest => (magnitude? rest).map fun n => (n : Int)
  | rest => (magnitude? rest).map fun n => (n : Int)

/-- Numbers of this magnitude or more are not made integers; it is that of the least signed 64-bit
integer. -/
def maxDoubleInteger : Int := 9223372036854775808

def integerOfDouble (value : Double) : Check Int :=
  if !value.isFinite then .fail .finiteNumber
  else match value.toInt? with
    | none => .fail .intFromFloat
    | some i => if -maxDoubleInteger < i ∧ i < maxDoubleInteger then .ok i else .fail .intParsingSize

def integer : Json → Check Int
  | .int i => .ok i
  | .bool b => .ok (if b then 1 else 0)
  | .float value => integerOfDouble value
  | .string text =>
    if text.length > maxIntegerText then .fail .intParsingSize
    else match integerText? text.toList with
      | some i => .ok i
      | none => .fail .intParsing
  | _ => .fail .intType

def string : Json → Check String
  | .string text => .ok text
  | _ => .fail .stringType

def stringOrNull : Json → Check (Option String)
  | .null => .ok none
  | value => (string value).map some

/-- The number that a decimal text without a sign stands for. -/
def unsignedDouble? (negative : Bool) (cs : List Char) : Option Double :=
  let lower := cs.map Char.toLower
  if lower = "inf".toList ∨ lower = "infinity".toList then some (.infinite negative)
  else if lower = "nan".toList then some .nan
  else
    let (whole, rest) := (cs.takeWhile Text.isAsciiDigit, cs.dropWhile Text.isAsciiDigit)
    let (fraction, rest) := match rest with
      | '.' :: rest => (rest.takeWhile Text.isAsciiDigit, rest.dropWhile Text.isAsciiDigit)
      | rest => ([], rest)
    let value (exponent : Int) : Double :=
      .ofDecimal negative (Text.ofDigits 10 ((whole ++ fraction).map fun c => c.toNat - 0x30))
        (exponent - fraction.length)
    if whole.isEmpty && fraction.isEmpty then none
    else match rest with
      | [] => some (value 0)
      | e :: rest =>
        let (down, digits) := match rest with
          | '-' :: digits => (true, digits)
          | '+' :: digits => (false, digits)
          | digits => (false, digits)
        if (e = 'e' ∨ e = 'E') ∧ !digits.isEmpty ∧ digits.all Text.isAsciiDigit then
          let size : Int := Text.ofDigits 10 (digits.map fun c => c.toNat - 0x30)
          some (value (if down then -size else size))
        else none

/-- The number that a decimal text stands for. -/
def signedDouble? : List Char → Option Double
  | '-' :: rest => unsignedDouble? true rest
  | '+' :: rest => unsignedDouble? false rest
  | rest => unsignedDouble? false rest

/-- The text without the single underscores inside it; none at its ends and no two in a row. -/
def withoutUnderscores? (cs : List Char) : Option (List Char) :=
  if (Text.fields '_' cs).any List.isEmpty then none else some (cs.filter (· != '_'))

/-- The number that a text stands for: white space at its ends does not count, and single
underscores inside it do not count either. -/
def doubleText? (cs : List Char) : Option Double :=
  match signedDouble? (Text.trimBy Text.isWhiteSpace cs) with
  | some value => some value
  | none => (withoutUnderscores? cs).bind fun cs =>
    signedDouble? (Text.trimBy Text.isWhiteSpace cs)

def double : Json → Check Double
  | .float value => .ok value
  | .int i =>
    let value := Double.ofInt i
    if value.isFinite then .ok value else .fail .floatType
  | .bool b => .ok (.ofInt (if b then 1 else 0))
  | .string text =>
    match doubleText? text.toList with
    | some value => .ok value
    | none => .fail .floatParsing
  | _ => .fail .floatType

def positiveDouble (value : Json) : Check Double :=
  match double value with
  | .ok d => if d.isPositive then .ok d else .fail .greaterThan
  | .error ds => .error ds

end CallGraph.Schema
