import CallGraph.Text.Digit
/-!
Double-precision numbers, exactly. A finite number is a sign, a significand and a power of two;
a decimal numeral is rounded to the nearest of them, a tie going to the even significand. All
arithmetic is on natural numbers, so nothing depends on the machine.
-/
namespace CallGraph

/-- A double-precision number. -/
inductive Double where
  /-- The number `significand * 2 ^ exponent`, or its negative. The significand has 53 bits, or
  fewer where the exponent is the least one. -/
  | finite (negative : Bool) (significand : Nat) (exponent : Int)
  | infinite (negative : Bool)
  | nan
deriving DecidableEq, Repr

namespace Double

/-- The least exponent of a finite number. -/
def minExponent : Int := -1074

/-- The greatest exponent of a finite number. -/
def maxExponent : Int := 971

/-- The nearest integer to a quotient, a tie going to the even one. -/
def roundDiv (num den : Nat) : Nat :=
  let q := num / den
  let r := num % den
  if 2 * r < den then q
  else if den < 2 * r then q + 1
  else q + q % 2

/-- The quotient `num / (den * 2 ^ exponent)` as numerator and denominator. -/
def scale (num den : Nat) (exponent : Int) : Nat × Nat :=
  if exponent < 0 then (num * Nat.pow 2 exponent.natAbs, den)
  else (num, den * Nat.pow 2 exponent.natAbs)

/-- The exponent with which a positive quotient has a significand of 53 bits, or the least
exponent. -/
def exponentFor (num den : Nat) : Int :=
  let guess : Int := (Nat.log2 num : Int) - Nat.log2 den - 52
  let (n, d) := scale num den guess
  let exponent :=
    if n < Nat.pow 2 52 * d then guess - 1
    else if Nat.pow 2 53 * d ≤ n then guess + 1
    else guess
  max exponent minExponent

/-- The number nearest to a positive quotient. -/
def ofQuotient (negative : Bool) (num den : Nat) : Double :=
  let exponent := exponentFor num den
  let (n, d) := scale num den exponent
  let significand := roundDiv n d
  let (significand, exponent) :=
    if significand = Nat.pow 2 53 then (Nat.pow 2 52, exponent + 1) else (significand, exponent)
  if maxExponent < exponent then .infinite negative else .finite negative significand exponent

/-- The number nearest to `digits * 10 ^ exponent`. Numerals of far too great or too small a
magnitude are settled by their length alone. -/
def ofDecimal (negative : Bool) (digits : Nat) (exponent : Int) : Double :=
  if digits = 0 then .finite negative 0 minExponent
  else
    let magnitude := exponent + (Nat.toDigits 10 digits).length
    if 310 < magnitude then .infinite negative
    else if magnitude < -330 then .finite negative 0 minExponent
    else if exponent < 0 then ofQuotient negative digits (Nat.pow 10 exponent.natAbs)
    else ofQuotient negative (digits * Nat.pow 10 exponent.natAbs) 1

def ofInt (i : Int) : Double := ofDecimal (i < 0) i.natAbs 0

def isFinite : Double → Bool
  | .finite .. => true
  | _ => false

/-- The integer that a finite number is, if it has no fraction. -/
def toInt? : Double → Option Int
  | .finite negative significand exponent =>
    let magnitude? : Option Nat :=
      if exponent < 0 then
        let den := Nat.pow 2 exponent.natAbs
        if significand % den = 0 then some (significand / den) else none
      else some (significand * Nat.pow 2 exponent.natAbs)
    magnitude?.map fun magnitude => if negative then -(magnitude : Int) else magnitude
  | _ => none

/-- A number above zero; this leaves out both zeros and what is no number. -/
def isPositive : Double → Bool
  | .finite negative significand _ => !negative && significand != 0
  | .infinite negative => !negative
  | .nan => false

end Double

end CallGraph
