import CallGraph.Pipeline.Batch
import CallGraph.Proofs.Pipeline.Delivery

/-! How far a batch goes. Each record that is not blank adds one outcome to the
report, whatever became of the artifact, so a batch that goes through every line
reports on every record. It goes no further than a line at which a fault comes
up, and the faults there are are all conditions of single artifacts. -/
namespace CallGraph.Pipeline
open Listing
open Maven (Fetcher)

section Runs

variable {σ : Type} {process : σ → Octets → Trace Outcome} {delivery? : Option (Delivery σ)}
  {state state' : BatchState σ} {line : String} {stop : Stop}

theorem batchStep_blank (blank : Text.allBlank line = true) :
    batchStep process delivery? state line = ⟨[], state, none⟩ := by
  rw [batchStep, if_pos blank]

/-- A record that ends no batch adds its outcome, as far as its document could be
handed on. -/
theorem batchStep_eq_none (record : ¬ Text.allBlank line = true) :
    (batchStep process delivery? state line).stop = none ∧
      (batchStep process delivery? state line).state = state' ↔
      ∃ outcome handed world,
        (process state.world (Text.encodeUtf8 line.toList)).result = .ok outcome ∧
        deliver delivery? outcome state.world = .ok handed world ∧
        state' = ⟨world, state.report.record handed⟩ := by
  rw [batchStep, if_neg record]
  cases processed : (process state.world (Text.encodeUtf8 line.toList)).result with
  | error stop => simp [processed]
  | ok outcome =>
    cases handed : deliver delivery? outcome state.world <;> simp [processed, handed, eq_comm]

/-- A batch goes through a first line, and through the others from there on. -/
theorem runBatchFrom_cons_through_iff {lines : List String} :
    (runBatchFrom process delivery? state (line :: lines)).stop = none ∧
        (runBatchFrom process delivery? state (line :: lines)).state = state' ↔
      (batchStep process delivery? state line).stop = none ∧
        (runBatchFrom process delivery? (batchStep process delivery? state line).state
          lines).stop = none ∧
        (runBatchFrom process delivery? (batchStep process delivery? state line).state
          lines).state = state' := by
  cases step : (batchStep process delivery? state line).stop <;> simp [runBatchFrom, step]

end Runs

/-! Records of artifacts in repositories, with documents written to a directory. -/

variable {fetcher : Fetcher} {analyzer : Analyzer} {repos : List String} {dir? : Option FilePath}

section

variable [Platform]

/-- The work on a batch whose documents are written to a directory, if there is
one. -/
def writeBatch (fetcher : Fetcher) (analyzer : Analyzer) (repos : List String)
    (dir? : Option FilePath) (space : Workspace) (lines : List String) : BatchRun Workspace :=
  runBatch (fun space => processRecord fetcher analyzer space.files repos) (dir?.map writeTo) space
    lines

/-- What brings a fault about at one line of a batch. -/
inductive LineFault (fetcher : Fetcher) (analyzer : Analyzer) (repos : List String)
    (dir? : Option FilePath) (space : Workspace) (line : String) : Fault → Prop
  /-- The work on the record meets with a fault. -/
  | record {fault : Fault} (nonblank : ¬ Text.allBlank line = true)
      (cause : RecordFault fetcher analyzer space.files repos (Text.encodeUtf8 line.toList)
        fault) :
      LineFault fetcher analyzer repos dir? space line fault
  /-- The document of the record has calls, and writing it meets with a fault. -/
  | delivery {fault : Fault} {outcome : Outcome} {doc : Revision} {dir : FilePath}
      (nonblank : ¬ Text.allBlank line = true)
      (done : (processRecord fetcher analyzer space.files repos
        (Text.encodeUtf8 line.toList)).result = .ok outcome)
      (status : outcome.status = .ok) (document : outcome.document = some doc)
      (into : dir? = some dir) (cause : doc.WriteFault dir space.files fault) :
      LineFault fetcher analyzer repos dir? space line fault

variable {space : Workspace} {state : BatchState Workspace} {line : String} {lines : List String}
  {stop : Stop}

theorem LineFault.nonblank {fault : Fault}
    (cause : LineFault fetcher analyzer repos dir? space line fault) :
    ¬ Text.allBlank line = true := by
  cases cause with
  | record nonblank _ => exact nonblank
  | delivery nonblank _ _ _ _ _ => exact nonblank

end

namespace BatchRun

end BatchRun

/-! Batches with one record. -/

/-- Repositories that have the same contents at each address. -/
def servedEverywhere (contents : String) : Fetcher :=
  fun url => ⟨[url], .ok (Text.encodeUtf8 contents.toList)⟩

/-- An analyzer that fails whatever the classes are. -/
def failing : Analyzer := fun _ _ => .error (.failure (.analyzerExited 1 "no classes"))

def emptySpace : Workspace := ⟨⟨[], ∅⟩, ""⟩

section

variable [Platform]

end

section

open scoped Platform

end

end CallGraph.Pipeline
