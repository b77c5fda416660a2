import CallGraph.FileTree.Attempt
import CallGraph.Pipeline.Report
/-!
Batches: records are processed one after the other, and every document with calls is handed on.
That a document cannot be handed on is a failure of its artifact and of no other.
-/
namespace CallGraph.Pipeline

/-- A way to hand documents on, in a world that each of them may change, also one that is refused
in the end. -/
abbrev Delivery (σ : Type) := Revision → Attempt Stop σ Unit

/-- What a batch goes through: the world that documents are handed on in, and the report. -/
structure BatchState (σ : Type) where
  world : σ
  report : Report

variable {σ : Type}

/-- What is left of an outcome whose document is not handed on. What the system refuses makes it a
failed one. -/
def undelivered (outcome : Outcome) : Stop → Attempt Stop σ Outcome
  | .failure failure =>
    if failure.isSystem then
      pure (.ofFailure outcome.coordinate failure.kindName failure.message)
    else throw (.failure failure)
  | .fault fault => throw (.fault fault)

/-- Hands on the document of an outcome, if it has calls. -/
def deliver (delivery? : Option (Delivery σ)) (outcome : Outcome) : Attempt Stop σ Outcome :=
  match delivery?, outcome.status, outcome.document with
  | some delivery, .ok, some doc =>
    tryCatch (do delivery doc; return outcome) (undelivered outcome)
  | _, _, _ => pure outcome

/-- The work on a batch: what others could see of it, how far it came, and why it went no further,
if it did not go through every record. -/
structure BatchRun (σ : Type) where
  events : List Event
  state : BatchState σ
  stop : Option Stop

namespace BatchRun

/-- The work with its result: the last state, if it went through every record. -/
def trace (run : BatchRun σ) : Trace (BatchState σ) :=
  ⟨run.events, match run.stop with
    | none => .ok run.state
    | some stop => .error stop⟩

end BatchRun

/-- Processes one record; a blank line is none. -/
def batchStep (process : σ → Octets → Trace Outcome) (delivery? : Option (Delivery σ))
    (state : BatchState σ) (line : String) : BatchRun σ :=
  if Text.allBlank line then ⟨[], state, none⟩
  else
    let work := process state.world (Text.encodeUtf8 line.toList)
    match work.result with
    | .error stop => ⟨work.events, state, some stop⟩
    | .ok outcome =>
      match deliver delivery? outcome state.world with
      | .ok outcome world => ⟨work.events, ⟨world, state.report.record outcome⟩, none⟩
      | .error stop world => ⟨work.events, ⟨world, state.report⟩, some stop⟩

def runBatchFrom (process : σ → Octets → Trace Outcome) (delivery? : Option (Delivery σ)) :
    BatchState σ → List String → BatchRun σ
  | state, [] => ⟨[], state, none⟩
  | state, line :: lines =>
    let step := batchStep process delivery? state line
    match step.stop with
    | some _ => step
    | none =>
      let rest := runBatchFrom process delivery? step.state lines
      { rest with events := step.events ++ rest.events }

def runBatch (process : σ → Octets → Trace Outcome) (delivery? : Option (Delivery σ)) (world : σ)
    (lines : List String) : BatchRun σ :=
  runBatchFrom process delivery? ⟨world, .empty⟩ lines

end CallGraph.Pipeline
