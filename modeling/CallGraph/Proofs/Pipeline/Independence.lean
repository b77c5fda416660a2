import CallGraph.Proofs.FileTree.Write
import CallGraph.Proofs.Pipeline.Course

/-! The artifacts of a batch do not depend on each other. An outcome says
nothing of the records before it where the analyzer answers by the classes
alone, and neither does what is reported where the system refuses documents by
the document alone. The world that documents are handed on in is the only thing
that goes from one record to the next. -/
namespace CallGraph.Pipeline
open Listing
open Maven (Fetcher Coordinate)

/-! One record. -/

theorem outcomeOf_congr {label : String} {work work' : Trace Revision}
    (same : work.result = work'.result) :
    (outcomeOf label work).result = (outcomeOf label work').result := by
  unfold outcomeOf
  rw [same]
  cases work'.result with
  | ok doc => rfl
  | error stop => cases stop <;> rfl

section Record

variable [Platform] {fetcher : Fetcher} {analyzer : Analyzer}
  {answer : Octets → Except Stop RawGraph} {repos : List String} {files files' : FileTree}
  {line : String} {outcome : Outcome}

/-- The analyzer answers by the classes of an artifact, whatever the files
around them are. -/
def AnswersBy (analyzer : Analyzer) (answer : Octets → Except Stop RawGraph) : Prop :=
  ∀ files jar, analyzer (withTemporaryJar files jar) [temporaryJar] = answer jar

/-- The record of the line has the outcome when it is processed by itself,
whatever the files are. -/
def Yields (fetcher : Fetcher) (analyzer : Analyzer) (repos : List String) (line : String)
    (outcome : Outcome) : Prop :=
  ∀ files, (processRecord fetcher analyzer files repos (Text.encodeUtf8 line.toList)).result =
    .ok outcome

theorem Yields.unique {outcome' : Outcome} (yields : Yields fetcher analyzer repos line outcome)
    (yields' : Yields fetcher analyzer repos line outcome') : outcome = outcome' := by
  have same := (yields ⟨[], ∅⟩).symm.trans (yields' ⟨[], ∅⟩)
  exact Except.ok.inj same

theorem AnswersBy.generate_eq (answers : AnswersBy analyzer answer) (coordinate : Coordinate)
    (timestamp : Int) :
    (generate fetcher analyzer files coordinate timestamp).result =
      (generate fetcher analyzer files' coordinate timestamp).result := by
  have analyzed : ∀ jar, (analyze analyzer (withTemporaryJar files jar) [temporaryJar]).result =
      (analyze analyzer (withTemporaryJar files' jar) [temporaryJar]).result := by
    intro jar
    exact (answers files jar).trans (answers files' jar).symm
  simp only [generate, generateForJar, Trace.result_bind, analyzed]

/-- The outcome of a record does not depend on the files that are there. -/
theorem AnswersBy.processRecord_eq (answers : AnswersBy analyzer answer) (record : Octets) :
    (processRecord fetcher analyzer files repos record).result =
      (processRecord fetcher analyzer files' repos record).result := by
  unfold processRecord
  cases Json.ofOctets? .strict record with
  | none => rfl
  | some value =>
    dsimp only
    cases recordCoordinate repos value with
    | error failure => rfl
    | ok coordinate =>
      dsimp only
      cases recordDate coordinate value with
      | error stop => cases stop <;> rfl
      | ok timestamp => exact outcomeOf_congr (answers.generate_eq coordinate timestamp)

theorem AnswersBy.yields (answers : AnswersBy analyzer answer)
    (processed : (processRecord fetcher analyzer files repos
      (Text.encodeUtf8 line.toList)).result = .ok outcome) :
    Yields fetcher analyzer repos line outcome := by
  intro files'
  rw [← processed]
  exact answers.processRecord_eq _

end Record

/-! Handing documents on. -/

section Handing

variable {σ : Type} {delivery : Delivery σ} {refusal? : Revision → Option Failure}
  {world world' : σ} {outcome reported : Outcome}

/-- Whether a document is taken or the system refuses it, and how, depends on
the document alone. -/
structure Decides (delivery : Delivery σ) (refusal? : Revision → Option Failure) : Prop where
  taken : ∀ {doc world world'}, delivery doc world = .ok () world' → refusal? doc = none
  refused : ∀ {doc world world' failure}, delivery doc world = .error (.failure failure) world' →
    failure.isSystem = true → refusal? doc = some failure

/-- Documents are handed on one after another, and each is taken or refused by
the system. The next one is handed on in the world that this leaves. -/
inductive HandedOn (delivery : Delivery σ) : σ → List Revision → σ → Prop
  | done (world : σ) : HandedOn delivery world [] world
  | taken {world next final : σ} {doc : Revision} {docs : List Revision}
      (taken : delivery doc world = .ok () next) (rest : HandedOn delivery next docs final) :
      HandedOn delivery world (doc :: docs) final
  | refused {world next final : σ} {doc : Revision} {docs : List Revision} {failure : Failure}
      (refused : delivery doc world = .error (.failure failure) next)
      (system : failure.isSystem = true) (rest : HandedOn delivery next docs final) :
      HandedOn delivery world (doc :: docs) final

namespace Outcome

/-- What is reported of an outcome: a failure of the same artifact if its
document is refused, and the outcome itself otherwise. -/
def settled (refusal? : Revision → Option Failure) (outcome : Outcome) : Outcome :=
  match outcome.toHand?.bind refusal? with
  | some failure => .ofFailure outcome.coordinate failure.kindName failure.message
  | none => outcome

/-- If the outcomes with calls have documents, these are what is to be handed
on. -/
theorem map_document {outcomes : List Outcome}
    (documents : ∀ outcome ∈ outcomes, outcome.status = .ok → ∃ doc, outcome.document = some doc) :
    (outcomes.filter fun outcome => outcome.status = .ok).map Outcome.document =
      (outcomes.filterMap toHand?).map some := by
  induction outcomes with
  | nil => rfl
  | cons outcome outcomes ih =>
    have rest := ih fun outcome mem => documents outcome (List.mem_cons_of_mem _ mem)
    by_cases status : outcome.status = .ok
    · obtain ⟨doc, document⟩ := documents outcome List.mem_cons_self status
      have given : outcome.toHand? = some doc := by rw [toHand?, if_pos status, document]
      simp [status, document, given, rest]
    · have given : outcome.toHand? = none := by rw [toHand?, if_neg status]
      simp [status, given, rest]

end Outcome

/-- Handing an outcome on settles it, and is one step of handing documents on
if there is one to hand on. -/
theorem Decides.deliver (decides : Decides delivery refusal?)
    (delivered : deliver (some delivery) outcome world = .ok reported world') :
    reported = outcome.settled refusal? ∧
      ∀ {docs final}, HandedOn delivery world' docs final →
        HandedOn delivery world (outcome.toHand?.toList ++ docs) final := by
  unfold Outcome.settled
  rcases deliver_eq_ok.1 delivered with ⟨given, rfl, rfl⟩ | ⟨doc, given, taken, rfl⟩ |
    ⟨doc, failure, given, refused, system, rfl⟩
  · rw [given]
    exact ⟨rfl, id⟩
  · rw [given, Option.bind_some, decides.taken taken]
    exact ⟨rfl, .taken taken⟩
  · rw [given, Option.bind_some, decides.refused refused system]
    exact ⟨rfl, .refused refused system⟩

/-- Every document is taken or refused by the system. -/
def OnlyRefuses (delivery : Delivery σ) : Prop :=
  ∀ doc world stop world', delivery doc world = .error stop world' →
    ∃ failure, stop = .failure failure ∧ failure.isSystem = true

theorem OnlyRefuses.deliver (only : OnlyRefuses delivery) (world : σ) (outcome : Outcome) :
    ∃ reported world', deliver (some delivery) outcome world = .ok reported world' := by
  cases given : outcome.toHand? with
  | none => exact ⟨_, _, deliver_eq_ok.2 (.inl ⟨given, rfl, rfl⟩)⟩
  | some doc =>
    cases result : delivery doc world with
    | ok next => exact ⟨_, _, deliver_eq_ok.2 (.inr (.inl ⟨doc, given, result, rfl⟩))⟩
    | error stop next =>
      obtain ⟨failure, rfl, system⟩ := only _ _ _ _ result
      exact ⟨_, _, deliver_eq_ok.2 (.inr (.inr ⟨doc, failure, given, result, system, rfl⟩))⟩

end Handing

/-! Whole batches. -/

section Batches

variable [Platform] {σ : Type} {files : σ → FileTree} {fetcher : Fetcher} {analyzer : Analyzer}
  {answer : Octets → Except Stop RawGraph} {repos : List String} {delivery : Delivery σ}
  {refusal? : Revision → Option Failure} {world final : σ} {lines : List String}
  {entries : List Entry} {outcomes : List Outcome}

/-- The work on a batch whose documents are handed on in a world with files. -/
def runRecords (files : σ → FileTree) (fetcher : Fetcher) (analyzer : Analyzer)
    (repos : List String) (delivery : Delivery σ) (world : σ) (lines : List String) :
    BatchRun σ :=
  runBatch (fun world => processRecord fetcher analyzer (files world) repos) (some delivery) world
    lines

/-- Each entry of a course is told from its own record, and the documents are
handed on in the order of the records. -/
theorem Course.independent (answers : AnswersBy analyzer answer)
    (decides : Decides delivery refusal?)
    (course : Course (fun world => processRecord fetcher analyzer (files world) repos)
      (some delivery) world lines entries final) :
    List.Forall₂ (Yields fetcher analyzer repos) (records lines) (entries.map Entry.outcome) ∧
      entries.map Entry.reported =
        (entries.map Entry.outcome).map (Outcome.settled refusal?) ∧
      HandedOn delivery world ((entries.map Entry.outcome).filterMap Outcome.toHand?) final := by
  induction course with
  | done world => exact ⟨.nil, rfl, .done world⟩
  | blank blank rest ih =>
    rw [records_blank blank]
    exact ih
  | record nonblank processed delivered rest ih =>
    obtain ⟨yield, settle, hand⟩ := ih
    obtain ⟨settled, handed⟩ := decides.deliver delivered
    rw [records_record nonblank]
    refine ⟨.cons (answers.yields processed) yield, ?_, ?_⟩
    · rw [List.map_cons, List.map_cons, List.map_cons, settled, settle]
    · have split : ∀ (outcome : Outcome) (outcomes : List Outcome),
          (outcome :: outcomes).filterMap Outcome.toHand? =
            outcome.toHand?.toList ++ outcomes.filterMap Outcome.toHand? := by
        intro outcome outcomes
        cases given : outcome.toHand? <;> simp [given]
      rw [List.map_cons, split]
      exact handed hand

/-- The report on a batch that goes through every line, and what is handed on. -/
theorem runRecords_told (answers : AnswersBy analyzer answer)
    (decides : Decides delivery refusal?)
    (through : (runRecords files fetcher analyzer repos delivery world lines).stop = none) :
    ∃ outcomes, List.Forall₂ (Yields fetcher analyzer repos) (records lines) outcomes ∧
      (runRecords files fetcher analyzer repos delivery world lines).state.report =
        .ofOutcomes (outcomes.map (Outcome.settled refusal?)) ∧
      HandedOn delivery world (outcomes.filterMap Outcome.toHand?)
        (runRecords files fetcher analyzer repos delivery world lines).state.world := by
  obtain ⟨entries, course, report⟩ := exists_course through
  obtain ⟨yield, settled, handed⟩ := course.independent answers decides
  rw [settled] at report
  exact ⟨_, yield, report, handed⟩

/-- Where each record has an outcome and documents are at most refused, a batch
goes through every line. -/
theorem OnlyRefuses.exists_course (only : OnlyRefuses delivery) (world : σ)
    (yield : ∀ line ∈ records lines, ∃ outcome, Yields fetcher analyzer repos line outcome) :
    ∃ entries final, Course (fun world => processRecord fetcher analyzer (files world) repos)
      (some delivery) world lines entries final := by
  induction lines generalizing world with
  | nil => exact ⟨[], world, .done world⟩
  | cons line lines ih =>
    by_cases blank : Text.allBlank line = true
    · rw [records_blank blank] at yield
      obtain ⟨entries, final, course⟩ := ih world yield
      exact ⟨entries, final, .blank blank course⟩
    · rw [records_record blank] at yield
      obtain ⟨outcome, yields⟩ := yield line List.mem_cons_self
      obtain ⟨reported, next, delivered⟩ := only.deliver world outcome
      obtain ⟨entries, final, course⟩ := ih next fun line mem =>
        yield line (List.mem_cons_of_mem _ mem)
      exact ⟨_, final, .record blank (yields _) delivered course⟩

/-- **The artifacts of a batch are independent.** Where the analyzer answers by
the classes alone, and the system refuses documents by the document alone, a
batch that goes through every line reports for each record what the record
yields by itself, or a failure of the same artifact if its document is refused.
The reported outcomes are parted by whether they are failures and keep their
order, and the documents with calls are handed on, once each and in the order
of the records. So the report on a batch in two parts is the report on the
first part and then that on the second, whatever the worlds they are run in. -/
theorem runRecords_independent (answers : AnswersBy analyzer answer)
    (decides : Decides delivery refusal?)
    (through : (runRecords files fetcher analyzer repos delivery world lines).stop = none) :
    (∃ outcomes docs, List.Forall₂ (Yields fetcher analyzer repos) (records lines) outcomes ∧
      (runRecords files fetcher analyzer repos delivery world lines).state.report =
        .ofOutcomes (outcomes.map (Outcome.settled refusal?)) ∧
      (outcomes.filter fun outcome => outcome.status = .ok).map Outcome.document =
        docs.map some ∧
      HandedOn delivery world docs
        (runRecords files fetcher analyzer repos delivery world lines).state.world) ∧
    ∀ front back, lines = front ++ back → ∀ world₁ world₂,
      (OnlyRefuses delivery →
        (runRecords files fetcher analyzer repos delivery world₁ front).stop = none ∧
        (runRecords files fetcher analyzer repos delivery world₂ back).stop = none) ∧
      ((runRecords files fetcher analyzer repos delivery world₁ front).stop = none →
        (runRecords files fetcher analyzer repos delivery world₂ back).stop = none →
        (runRecords files fetcher analyzer repos delivery world lines).state.report =
          (runRecords files fetcher analyzer repos delivery world₁ front).state.report ++
          (runRecords files fetcher analyzer repos delivery world₂ back).state.report) := by
  obtain ⟨outcomes, yield, report, handed⟩ := runRecords_told answers decides through
  refine ⟨⟨outcomes, _, yield, report, Outcome.map_document ?_, handed⟩, ?_⟩
  · intro outcome mem status
    obtain ⟨line, -, yields⟩ := exists_of_forall₂ yield.flip mem
    exact processRecord_exists_document (yields ⟨[], ∅⟩) status
  rintro front back rfl world₁ world₂
  have parts : records (front ++ back) = records front ++ records back := List.filter_append ..
  rw [parts] at yield
  constructor
  · intro only
    have each : ∀ line ∈ records front ++ records back,
        ∃ outcome, Yields fetcher analyzer repos line outcome := by
      intro line mem
      obtain ⟨outcome, -, yields⟩ := exists_of_forall₂ yield mem
      exact ⟨outcome, yields⟩
    obtain ⟨_, _, first⟩ := only.exists_course world₁ fun line mem =>
      each line (List.mem_append_left _ mem)
    obtain ⟨_, _, second⟩ := only.exists_course world₂ fun line mem =>
      each line (List.mem_append_right _ mem)
    exact ⟨first.run.1, second.run.1⟩
  · intro through₁ through₂
    obtain ⟨outcomes₁, yield₁, report₁, -⟩ := runRecords_told answers decides through₁
    obtain ⟨outcomes₂, yield₂, report₂, -⟩ := runRecords_told answers decides through₂
    have joined : List.Forall₂ (Yields fetcher analyzer repos) (records front ++ records back)
        (outcomes₁ ++ outcomes₂) := List.rel_append yield₁ yield₂
    have unique : Relator.RightUnique (Yields fetcher analyzer repos) :=
      fun _ _ _ => Yields.unique
    have same : outcomes = outcomes₁ ++ outcomes₂ :=
      List.right_unique_forall₂' unique yield joined
    rw [report, report₁, report₂, same, List.map_append, Report.ofOutcomes_append]

end Batches

/-! Documents whose versions are logged, unless the version is 2. -/

section

open scoped Platform

theorem findingOne_answersBy : AnswersBy findingOne fun
    | [] => .error (.failure (.analyzerExited 1 "no classes"))
    | _ :: _ => .ok selfCalling := by
  intro files jar
  have stands : (withTemporaryJar files jar).node? temporaryJar.segments = some (.file jar) :=
    FileTree.node?_put_self (by decide)
  cases jar <;> simp [findingOne, stands]

/-- Why the log does not take a document. -/
def logRefusal? (doc : Revision) : Option Failure :=
  if doc.version = "2" then some (.system ⟨.denied, "log"⟩) else none

def logVersion : Delivery (List String) := fun doc log =>
  match logRefusal? doc with
  | some failure => .error (.failure failure) log
  | none => .ok () (log ++ [doc.version])

theorem logVersion_decides : Decides logVersion logRefusal? where
  taken {doc world world'} taken := by
    cases refusal : logRefusal? doc with
    | none => rfl
    | some failure => simp [logVersion, refusal] at taken
  refused {doc world world' failure} refused _ := by
    cases refusal : logRefusal? doc with
    | none => simp [logVersion, refusal] at refused
    | some failure' =>
      obtain ⟨rfl, -⟩ : failure' = failure ∧ world = world' := by
        simpa [logVersion, refusal] using refused
      rfl

theorem logVersion_onlyRefuses : OnlyRefuses logVersion := by
  intro doc world stop world' stopped
  unfold logVersion logRefusal? at stopped
  split at stopped
  · next failure refusal =>
    split at refusal
    · obtain rfl := Option.some.inj refusal
      obtain ⟨rfl, -⟩ := EStateM.Result.error.inj stopped
      exact ⟨_, rfl, rfl⟩
    · cases refusal
  · cases stopped

/-- Three artifacts of which the second one is not logged, a blank line, and a
record that names no artifact. -/
def loggedLines : List String :=
  [recordOf "g" "a" "1", " ", recordOf "g" "a" "2", "[]", recordOf "g" "a" "3"]

/-- The work on records whose documents are logged. -/
def runLogged (log lines : List String) : BatchRun (List String) :=
  runRecords (fun _ => ⟨[], ∅⟩) (servedEverywhere "<project/>") findingOne [] logVersion log lines

theorem runRecords_independent_logged :
    (runLogged [] loggedLines).stop = none ∧
    (∃ outcomes docs,
      List.Forall₂ (Yields (servedEverywhere "<project/>") findingOne []) (records loggedLines)
        outcomes ∧
      (runLogged [] loggedLines).state.report =
        .ofOutcomes (outcomes.map (Outcome.settled logRefusal?)) ∧
      (outcomes.filter fun outcome => outcome.status = .ok).map Outcome.document =
        docs.map some ∧
      HandedOn logVersion [] docs (runLogged [] loggedLines).state.world) ∧
    (runLogged [] loggedLines).state.report =
      (runLogged ["0"] (loggedLines.take 2)).state.report ++
      (runLogged [] (loggedLines.drop 2)).state.report := by
  have through : (runLogged [] loggedLines).stop = none :=
    Option.isNone_iff_eq_none.1 (by decide +kernel)
  unfold runLogged at through ⊢
  obtain ⟨told, parts⟩ :=
    runRecords_independent findingOne_answersBy logVersion_decides through
  obtain ⟨returns, joined⟩ := parts _ _ (List.take_append_drop 2 loggedLines).symm ["0"] []
  obtain ⟨front, back⟩ := returns logVersion_onlyRefuses
  exact ⟨through, told, joined front back⟩

end

end CallGraph.Pipeline
