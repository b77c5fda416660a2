import CallGraph.Pipeline.Record
/-!
Reports on batches: a line for each artifact, those that went well first, and a summary with the
kinds of failures by frequency.
-/
namespace CallGraph.Pipeline

/-- The outcomes so far, each part in the order in which they came. -/
structure Report where
  successes : List Outcome
  failures : List Outcome

namespace Report

def empty : Report := ⟨[], []⟩

def record (report : Report) (outcome : Outcome) : Report :=
  if outcome.isOk then { report with successes := report.successes ++ [outcome] }
  else { report with failures := report.failures ++ [outcome] }

def total (report : Report) : Nat := report.successes.length + report.failures.length

/-- The kind that a failed outcome counts under. -/
def countedKind (outcome : Outcome) : String :=
  match outcome.failureKind with
  | none => "Unknown"
  | some "" => "Unknown"
  | some kind => kind

/-- How often each kind of failure occurs, the most frequent first; of two that are as frequent,
the one that occurred first. -/
def failureKinds (report : Report) : List (String × Nat) :=
  let counts := (report.failures.map countedKind).foldl
    (fun (counts : Table String Nat) kind => counts.update kind fun n => n.getD 0 + 1) ∅
  counts.entries.mergeSort fun a b => b.2 ≤ a.2

/-- The share of successes in whole percent, rounded down. -/
def successRate (report : Report) : Option Nat :=
  if report.total = 0 then none else some (100 * report.successes.length / report.total)

/-- The line for an artifact that went well. -/
def successLine (outcome : Outcome) : String :=
  let calls := (outcome.document.map Revision.callCount).getD 0
  "Number of calls: " ++ calls.repr ++ " COORDINATE: " ++ outcome.coordinate ++
    (if outcome.status = .empty then " (empty)" else "")

/-- The line for an artifact that failed. -/
def failureLine (outcome : Outcome) : String :=
  outcome.coordinate ++ " ERROR: " ++ outcome.failureKind.getD "None"

def lines (report : Report) : List String :=
  report.successes.map successLine ++ report.failures.map failureLine ++
  ["", "===================SUMMARY=================",
    "Total number of analyzed coordinates: " ++ report.total.repr,
    "Total number of successful: " ++ report.successes.length.repr,
    "Total number of failed: " ++ report.failures.length.repr,
    "Most common exceptions:"] ++
  report.failureKinds.map (fun (kind, count) => "\t[" ++ kind ++ " - " ++ count.repr ++ "]") ++
  (report.successRate.map fun rate => "Success rate: " ++ rate.repr ++ "%").toList

/-- The text of the report, without a line end at its end. -/
def text (report : Report) : String := String.intercalate "\n" report.lines

end Report

end CallGraph.Pipeline
