import CallGraph.Text.Blank
import CallGraph.Text.Digit
/-!
Whole numbers written in decimal digits of any script. A text may consist of digits and still be
no number: digits such as superscripts form none, and a text of very many digits is refused. A
number of as many digits is not written either.
-/
namespace CallGraph.Text

/-- A reason why a text of digits is no number. -/
inductive NumeralDefect where
  /-- A digit that forms no decimal numbers. -/
  | notDecimal
  | tooLong
deriving DecidableEq, Repr

/-- The greatest number of digits that are read or written. -/
def maxDigits : Nat := 4300

/-- The number that a text of digits stands for. -/
def numeral (digits : List Char) : Except NumeralDefect Nat :=
  match digits.mapM decimalValue? with
  | none => .error .notDecimal
  | some values => if values.length ≤ maxDigits then .ok (ofDigits 10 values) else .error .tooLong

/-- The number has few enough digits to be written; a sign is none of them. -/
def isWritable (i : Int) : Bool := i.natAbs < Nat.pow 10 maxDigits

end CallGraph.Text
