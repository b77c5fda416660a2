import CallGraph.Http.HostChars
import CallGraph.Text.Cut
import CallGraph.Text.Digit
/-!
Host names. A name may be a numeric address of either length, a name in ASCII, or a name in other
letters, which is sent in an ASCII form: in each of its labels the ASCII letters come first, and
the others follow as steps through the characters, in digits of a variable base.
-/
namespace CallGraph.Http

/-- The states of reading the outline of a numeric address: four runs of digits with one character
of any kind between each two. A state is twice the number of runs begun, less one where the last
of them still needs its first digit. -/
def outlineStates (cs : List Char) : List Nat :=
  cs.foldl (fun states c =>
    (states.flatMap fun s =>
      (if Text.isAsciiDigit c then [if s % 2 = 1 then s + 1 else s] else []) ++
      (if s % 2 = 0 ∧ s < 8 then [s + 1] else [])).eraseDups) [1]

def hasOutline4 (cs : List Char) : Bool := (outlineStates cs).contains 8

/-- A numeric address: four numbers up to 255, without zeros in front. -/
def isAddress4 (cs : List Char) : Bool :=
  let parts := Text.fields '.' cs
  parts.length == 4 && parts.all fun part =>
    !part.isEmpty && part.length ≤ 3 && part.all Text.isAsciiDigit &&
    (part.length == 1 || part.head? != some '0') &&
    Text.ofDigits 10 (part.map fun c => c.toNat - 0x30) ≤ 255

/-- A group of a long numeric address. -/
def isGroup6 (cs : List Char) : Bool :=
  !cs.isEmpty && cs.length ≤ 4 && cs.all fun c => (Text.hexValue? c).isSome

/-- The groups of a long numeric address: eight, or fewer and one gap between them. A gap at an
end of the address shows as two empty groups. -/
def areGroups6 (groups : List (List Char)) : Bool :=
  let inner := (groups.drop 1).dropLast
  if 9 < groups.length ∨ 1 < (inner.filter List.isEmpty).length then false
  else match inner.findIdx? List.isEmpty with
    | none => groups.length == 8 && groups.all isGroup6
    | some i =>
      let side (part : List (List Char)) : List (List Char) := if part = [[]] then [] else part
      let before := side (groups.take (i + 1))
      let after := side (groups.drop (i + 2))
      before.length + after.length ≤ 7 && before.all isGroup6 && after.all isGroup6

/-- A long numeric address. Its last two groups may be written as a short one, and a zone may
follow it. -/
def isAddress6 (cs : List Char) : Bool :=
  let (address, zoneOk) := match Text.cutFirst? '%' cs with
    | none => (cs, true)
    | some (address, zone) => (address, !zone.isEmpty && !zone.contains '%')
  let groups := Text.fields ':' address
  let last := groups.getLastD []
  if !zoneOk || groups.length < 3 then false
  else if last.contains '.' then isAddress4 last && areGroups6 (groups.dropLast ++ [['0'], ['0']])
  else areGroups6 groups

/-! ## Labels in other letters -/

/-- The digit of a value below 36: letters, then figures. -/
def labelDigit (n : Nat) : Char :=
  if n < 26 then Char.ofNat (0x61 + n) else Char.ofNat (0x30 + (n - 26))

/-- The threshold of the digit at a place, which lies between 1 and 26. -/
def threshold (place bias : Nat) : Nat :=
  if place ≤ bias then 1 else if bias + 26 ≤ place then 26 else place - bias

/-- A number in digits of variable base. As much fuel as the number has bits is enough. -/
def variableDigits (bias : Nat) : Nat → Nat → Nat → List Char
  | 0, _, n => [labelDigit (n % 36)]
  | fuel + 1, place, n =>
    let t := threshold place bias
    if n < t then [labelDigit n]
    else labelDigit (t + (n - t) % (36 - t)) ::
      variableDigits bias fuel (place + 36) ((n - t) / (36 - t))

/-- How often a step is divided before the bias is taken from it, and what is left of it. -/
def reduceStep : Nat → Nat → Nat → Nat × Nat
  | 0, divisions, step => (divisions, step)
  | fuel + 1, divisions, step =>
    if 455 < step then reduceStep fuel (divisions + 36) (step / 35) else (divisions, step)

/-- The bias after a step, given how many characters have been placed. -/
def adaptBias (step placed : Nat) (first : Bool) : Nat :=
  let step := if first then step / 700 else step / 2
  let step := step + step / placed
  let (divisions, step) := reduceStep 64 0 step
  divisions + 36 * step / (step + 38)

/-- The state of the encoding of a label: how far it has got, and the characters written so far. -/
structure LabelState where
  delta : Nat
  bias : Nat
  placed : Nat
  output : List Char

def placeChar (cs : List Char) (n basic : Nat) (state : LabelState) : LabelState :=
  let state := cs.foldl (fun (state : LabelState) c =>
    if c.toNat < n then { state with delta := state.delta + 1 }
    else if c.toNat = n then
      { delta := 0
        bias := adaptBias state.delta (state.placed + 1) (state.placed == basic)
        placed := state.placed + 1
        output := state.output ++ variableDigits state.bias 64 36 state.delta }
    else state) state
  { state with delta := state.delta + 1 }

/-- The ASCII form of a label in other letters, without its mark. -/
def encodeLabel (cs : List Char) : List Char :=
  let basic := cs.filter fun c => c.toNat < 0x80
  let others := ((cs.map Char.toNat).filter (0x80 ≤ ·)).eraseDups.mergeSort fun a b => a ≤ b
  let start : LabelState :=
    ⟨0, 72, basic.length, if basic.isEmpty then [] else basic ++ ['-']⟩
  let (_, state) := others.foldl (fun (before, state) n =>
    (n + 1, placeChar cs n basic.length
      { state with delta := state.delta + (n - before) * (state.placed + 1) })) (0x80, start)
  state.output

/-- A label that may be sent: its characters are allowed, it neither begins nor ends with a
hyphen, and no two hyphens stand in the places where the mark of the ASCII form has them. -/
def isLabel (cs : List Char) : Bool :=
  !cs.isEmpty && cs.all isHostChar && cs.head? != some '-' && cs.getLast? != some '-' &&
    ((cs.drop 2).take 2 != ['-', '-'])

def labelForm? (cs : List Char) : Option (List Char) :=
  let form := if cs.all fun c => c.toNat < 0x80 then cs else ['x', 'n', '-', '-'] ++ encodeLabel cs
  if isLabel cs && form.length ≤ 63 then some form else none

def isStop (c : Char) : Bool :=
  c == '.' || c == '\u3002' || c == '\uff0e' || c == '\uff61'

/-- The ASCII form of a name in other letters, if it may be sent. -/
def hostForm? (cs : List Char) : Option (List Char) := do
  let labels := Text.fields '.' (cs.map fun c => if isStop c then '.' else c)
  let (labels, trailing) := if labels.getLastD [] = [] then (labels.dropLast, true) else (labels, false)
  let forms ← labels.mapM labelForm?
  let name := ['.'].intercalate forms ++ (if trailing then ['.'] else [])
  if forms.isEmpty || (if trailing then 254 else 253) < name.length then none else return name

end CallGraph.Http
