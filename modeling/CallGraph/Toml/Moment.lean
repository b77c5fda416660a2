import CallGraph.Text.Cut
import CallGraph.Text.Digit
/-!
Dates and times in TOML. A moment is a date, a time of day, or both, and both may come with the
distance from universal time. A date is one of the calendar; the parts of a time are in range by
the way they are written.
-/
namespace CallGraph.Toml

/-- A day of the calendar. -/
structure Date where
  year : Nat
  month : Nat
  day : Nat
deriving DecidableEq, Repr

/-- A time of day, to the millionth of a second. -/
structure Time where
  hour : Nat
  minute : Nat
  second : Nat
  micro : Nat
deriving DecidableEq, Repr

/-- A date, a time, or both. -/
inductive Moment where
  | date (date : Date)
  | time (time : Time)
  /-- A date with a time, and how many minutes the clock is ahead of universal time. -/
  | both (date : Date) (time : Time) (ahead : Option Int)
deriving DecidableEq, Repr

def isLeapYear (year : Nat) : Bool :=
  year % 4 == 0 && (year % 100 != 0 || year % 400 == 0)

/-- The number of days in a month. -/
def daysIn (year month : Nat) : Nat :=
  if month = 2 then if isLeapYear year then 29 else 28
  else if [4, 6, 9, 11].contains month then 30 else 31

def Date.isReal (date : Date) : Bool :=
  1 ≤ date.year && 1 ≤ date.month && date.month ≤ 12 &&
    1 ≤ date.day && date.day ≤ daysIn date.year date.month

/-! ## How moments are shown -/

/-- The parts of a time that are shown: the seconds and their fraction only where they count. -/
def Time.parts (time : Time) : List Nat :=
  [time.hour, time.minute] ++
    (if time.micro ≠ 0 then [time.second, time.micro]
      else if time.second ≠ 0 then [time.second] else [])

def Date.parts (date : Date) : List Nat := [date.year, date.month, date.day]

/-- The distance from universal time as messages show it: whole days, then seconds onwards. -/
def shownAhead (minutes : Int) : String :=
  if minutes = 0 then "datetime.timezone.utc"
  else
    let days := minutes.fdiv 1440
    let seconds := minutes.fmod 1440 * 60
    "datetime.timezone(datetime.timedelta(" ++
      (if days = 0 then "" else "days=" ++ days.repr ++ ", ") ++ "seconds=" ++ seconds.repr ++ "))"

def Moment.shown : Moment → String
  | .date day => "datetime.date(" ++ ", ".intercalate (day.parts.map Nat.repr) ++ ")"
  | .time clock => "datetime.time(" ++ ", ".intercalate (clock.parts.map Nat.repr) ++ ")"
  | .both day clock ahead =>
    "datetime.datetime(" ++ ", ".intercalate ((day.parts ++ clock.parts).map Nat.repr) ++
      (match ahead with
        | none => ""
        | some minutes => ", tzinfo=" ++ shownAhead minutes) ++ ")"

/-! ## How moments are written -/

def readDigits? : Nat → List Char → Option (List Char × List Char)
  | 0, cs => some ([], cs)
  | n + 1, c :: cs =>
    if Text.isAsciiDigit c then (readDigits? n cs).map fun (digits, rest) => (c :: digits, rest)
    else none
  | _ + 1, [] => none

def digitsValue (digits : List Char) : Nat :=
  Text.ofDigits 10 (digits.map fun c => c.toNat - 0x30)

/-- Reads a number of so many digits that is in a range. -/
def readPart? (width low high : Nat) (cs : List Char) : Option (Nat × List Char) := do
  let (digits, rest) ← readDigits? width cs
  let n := digitsValue digits
  if low ≤ n ∧ n ≤ high then return (n, rest) else none

def readChar? (wanted : Char) : List Char → Option (List Char)
  | c :: rest => if c = wanted then some rest else none
  | [] => none

/-- Reads what is written like a date, whether or not the calendar has it. -/
def readDate? (cs : List Char) : Option (Date × List Char) := do
  let (year, rest) ← readPart? 4 0 9999 cs
  let (month, rest) ← readPart? 2 1 12 (← readChar? '-' rest)
  let (day, rest) ← readPart? 2 1 31 (← readChar? '-' rest)
  return (⟨year, month, day⟩, rest)

/-- Reads the fraction of a second, if there is one; digits after the sixth do not count. -/
def readMicro (cs : List Char) : Nat × List Char :=
  match cs with
  | '.' :: rest =>
    let digits := rest.takeWhile Text.isAsciiDigit
    if digits.isEmpty then (0, cs)
    else (digitsValue ((digits ++ List.replicate 6 '0').take 6), rest.dropWhile Text.isAsciiDigit)
  | _ => (0, cs)

def readTime? (cs : List Char) : Option (Time × List Char) := do
  let (hour, rest) ← readPart? 2 0 23 cs
  let (minute, rest) ← readPart? 2 0 59 (← readChar? ':' rest)
  let (second, rest) ← readPart? 2 0 59 (← readChar? ':' rest)
  let (micro, rest) := readMicro rest
  return (⟨hour, minute, second, micro⟩, rest)

def readMinutes? (cs : List Char) : Option (Int × List Char) := do
  let (hours, rest) ← readPart? 2 0 23 cs
  let (minutes, rest) ← readPart? 2 0 59 (← readChar? ':' rest)
  return ((hours * 60 + minutes : Nat), rest)

/-- Reads the distance from universal time, if there is one. -/
def readAhead (cs : List Char) : Option Int × List Char :=
  match cs with
  | 'Z' :: rest => (some 0, rest)
  | 'z' :: rest => (some 0, rest)
  | '+' :: rest => ((readMinutes? rest).map fun (n, rest) => (some n, rest)).getD (none, cs)
  | '-' :: rest => ((readMinutes? rest).map fun (n, rest) => (some (-n), rest)).getD (none, cs)
  | _ => (none, cs)

/-- Reads the time after a date, if there is one. -/
def readTimeAfter? : List Char → Option (Time × List Char)
  | c :: rest => if c = 'T' ∨ c = 't' ∨ c = ' ' then readTime? rest else none
  | [] => none

/-- Reads a moment that begins with a date. -/
def readFromDate? (cs : List Char) : Option (Moment × List Char) := do
  let (date, rest) ← readDate? cs
  match readTimeAfter? rest with
  | none => return (.date date, rest)
  | some (time, rest) =>
    let (ahead, rest) := readAhead rest
    return (.both date time ahead, rest)

def readMoment? (cs : List Char) : Option (Moment × List Char) :=
  match readFromDate? cs with
  | some found => some found
  | none => (readTime? cs).map fun (time, rest) => (.time time, rest)

def Moment.isReal : Moment → Bool
  | .date day => day.isReal
  | .time _ => true
  | .both day _ _ => day.isReal

end CallGraph.Toml
