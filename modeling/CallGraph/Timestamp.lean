import CallGraph.Json.Shown
import CallGraph.Text.Blank
import CallGraph.Text.Numeral
/-!
Release timestamps. A timestamp is an integer, or a text that is an integer in ASCII digits
between blanks.
-/
namespace CallGraph.Timestamp

/-- A reason why a value is no timestamp. -/
inductive Defect where
  /-- Neither an integer nor the text of one. -/
  | invalid (value : Json)
  /-- The text of an integer with too many digits. -/
  | tooManyDigits
  /-- No timestamp, and nested too deeply to be shown. -/
  | tooDeep

/-- The wording for a value that is no timestamp. -/
def invalidMessage (value : Json) : String := "Invalid timestamp: " ++ value.shown

def splitSign : List Char → Bool × List Char
  | '-' :: digits => (true, digits)
  | digits => (false, digits)

/-- The timestamp that a text stands for. -/
def ofText (text : String) : Except Defect Int :=
  let (negative, digits) := splitSign (Text.trimBy Text.isBlank text.toList)
  if digits.isEmpty || !digits.all Text.isAsciiDigit then .error (.invalid (.string text))
  else if Text.maxDigits < digits.length then .error .tooManyDigits
  else
    let magnitude : Int := Text.ofDigits 10 (digits.map fun c => c.toNat - 0x30)
    .ok (if negative then -magnitude else magnitude)

/-- The timestamp that a value stands for. -/
def ofJson [Platform] : Json → Except Defect Int
  | .int i => .ok i
  | .string text => ofText text
  | value => .error (if value.isTooDeep then .tooDeep else .invalid value)

end CallGraph.Timestamp
