import CallGraph.Decimal.Double
/-!
The shortest decimal text of a double. Of all numerals that are read back as the number, those
with the fewest digits are taken, and of them the nearest to the number.
-/
namespace CallGraph.Double

/-- Four times a positive finite number and its two neighbouring midpoints, as integers over one
power of two: the midpoint below, the number, the midpoint above, and that power's exponent. -/
def midpoints (significand : Nat) (exponent : Int) : Nat × Nat × Nat × Int :=
  let narrow := significand = Nat.pow 2 52 ∧ minExponent < exponent
  (4 * significand - (if narrow then 1 else 2), 4 * significand, 4 * significand + 2, exponent - 2)

/-- The two neighbours of a number on the grid of multiples of `10 ^ place`, nearest first, with
the number's interval: whether a grid point is read back as the number. -/
def gridDigits? (significand : Nat) (exponent place : Int) : Option Nat :=
  let (low, mid, high, e) := midpoints significand exponent
  let num (n : Nat) : Nat :=
    n * (if e < 0 then 1 else Nat.pow 2 e.natAbs) *
      (if place < 0 then Nat.pow 10 place.natAbs else 1)
  let den : Nat := (if e < 0 then Nat.pow 2 e.natAbs else 1) *
    (if place < 0 then 1 else Nat.pow 10 place.natAbs)
  let closed := significand % 2 = 0
  let reads (k : Nat) : Bool :=
    if closed then num low ≤ k * den && k * den ≤ num high
    else num low < k * den && k * den < num high
  let below := num mid / den
  let above := below + 1
  let distBelow := num mid - below * den
  let distAbove := above * den - num mid
  let (first, second) :=
    if distBelow < distAbove ∨ (distBelow = distAbove ∧ below % 2 = 0) then (below, above)
    else (above, below)
  if first ≠ 0 ∧ reads first then some first
  else if second ≠ 0 ∧ reads second then some second
  else none

/-- The coarsest grid with a point in the number's interval, tried from the given place down. -/
def shortestFrom (significand : Nat) (exponent : Int) : Nat → Int → Nat × Int
  | 0, place => (0, place)
  | tries + 1, place =>
    match gridDigits? significand exponent place with
    | some digits => (digits, place)
    | none => shortestFrom significand exponent tries (place - 1)

/-- The digits and the power of ten of a positive finite number. -/
def shortest (significand : Nat) (exponent : Int) : Nat × Int :=
  let bits : Int := Nat.log2 significand + exponent
  shortestFrom significand exponent 24 (bits * 30103 / 100000 + 2)

/-- The digits of a numeral without the zeros at its end, and the power of ten that makes up for
them. -/
def dropZeros (digits : List Char) (place : Int) : List Char × Int :=
  let kept := (digits.reverse.dropWhile (· == '0')).reverse
  (kept, place + (digits.length - kept.length : Nat))

/-- Writes digits times a power of ten: with a point from `0.0001` to below `10 ^ 16`, and with
an exponent of at least two digits outside that range. -/
def writeDigits (digits : List Char) (place : Int) : String :=
  let point := digits.length + place
  let scientific := point - 1 < -4 || 16 ≤ point - 1
  let cs : List Char :=
    if scientific then
      let fraction := digits.drop 1
      let exponent := point - 1
      let size := Nat.toDigits 10 exponent.natAbs
      digits.take 1 ++ (if fraction.isEmpty then [] else '.' :: fraction) ++
        ['e', if exponent < 0 then '-' else '+'] ++
        List.replicate (2 - size.length) '0' ++ size
    else if point ≤ 0 then
      ['0', '.'] ++ List.replicate point.natAbs '0' ++ digits
    else if point.natAbs < digits.length then
      digits.take point.natAbs ++ '.' :: digits.drop point.natAbs
    else digits ++ List.replicate (point.natAbs - digits.length) '0' ++ ['.', '0']
  String.ofList cs

def text : Double → String
  | .nan => "nan"
  | .infinite negative => if negative then "-inf" else "inf"
  | .finite negative significand exponent =>
    let magnitude :=
      if significand = 0 then "0.0"
      else
        let (digits, place) := shortest significand exponent
        let (digits, place) := dropZeros (Nat.toDigits 10 digits) place
        writeDigits digits place
    if negative then "-" ++ magnitude else magnitude

end CallGraph.Double
