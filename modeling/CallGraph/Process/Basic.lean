import CallGraph.Decimal.Shortest
import CallGraph.FileTree.Basic
/-!
Processes that are run for what they print. A process ends with a status or by a signal, some time
after its start or never; who runs it may set a limit to that time.
-/
namespace CallGraph

/-- How a process ends. -/
inductive ProcessEnd where
  | exited (status : Nat)
  | killed (signal : Nat)
deriving DecidableEq, Repr

/-- The status of an ended process: that of a killed one is below zero. -/
def ProcessEnd.status : ProcessEnd → Int
  | .exited status => (status % 256 : Nat)
  | .killed signal => -(signal : Int)

/-- What a process does. -/
structure Execution where
  /-- What it prints on its standard output. -/
  output : Octets
  /-- What it prints on its error output. -/
  errors : Octets
  ending : ProcessEnd
  /-- How many milliseconds it takes, unless it never ends. -/
  duration : Option Nat

namespace Execution

def done (output errors : String) (status : Nat) : Execution :=
  ⟨Text.encodeUtf8 output.toList, Text.encodeUtf8 errors.toList, .exited status, some 0⟩

/-- Work after other work in the same process: a failure of either is one of both. -/
def andThen (first second : Execution) : Execution where
  output := first.output ++ second.output
  errors := first.errors ++ second.errors
  ending := if first.ending = .exited 0 then second.ending else first.ending
  duration := do return (← first.duration) + (← second.duration)

end Execution

/-- What a command of several words does on the files that are there, or why it is not started. -/
abbrev Launcher := FileTree → List String → Except FileError Execution

/-- A number of seconds, whole or not. -/
inductive Seconds where
  | whole (count : Int)
  | fraction (count : Double)
deriving DecidableEq

namespace Seconds

def text : Seconds → String
  | .whole count => count.repr
  | .fraction count => count.text

/-- The number as a quotient, where it is above zero. -/
def quotient? : Seconds → Option (Nat × Nat)
  | .whole count => if 0 < count then some (count.natAbs, 1) else none
  | .fraction (.finite false significand exponent) =>
    if significand = 0 then none
    else if exponent < 0 then some (significand, Nat.pow 2 exponent.natAbs)
    else some (significand * Nat.pow 2 exponent.natAbs, 1)
  | .fraction _ => none

def isEndless : Seconds → Bool
  | .fraction (.infinite false) => true
  | _ => false

/-- The greatest number of milliseconds that a limit can be set to. -/
def maxLimit : Nat := 2147483647

/-- The number is too great for a limit. -/
def isUnlimited (seconds : Seconds) : Bool :=
  seconds.isEndless || seconds.quotient?.any fun (num, den) => maxLimit * den < num * 1000

/-- A process of a duration ends within the time. -/
def admits (seconds : Seconds) (duration : Option Nat) : Bool :=
  match seconds.quotient?, duration with
  | some (num, den), some milliseconds => milliseconds * den < num * 1000
  | _, _ => false

end Seconds

end CallGraph
