import CallGraph.Proofs.Pipeline.Batch

/-! The course of a batch that goes through every line. Each record has an
outcome of its own, and one that is reported once its document has been handed
on; the worlds in between are linked. The report is told from the reported
outcomes alone: they are parted by whether they are failures, and keep their
order. -/
namespace CallGraph.Pipeline
open Listing

namespace Report

/-- The report on some outcomes, in the order in which they came. -/
def ofOutcomes (outcomes : List Outcome) : Report :=
  ⟨outcomes.filter Outcome.isOk, outcomes.filter fun outcome => !outcome.isOk⟩

/-- One report after another. -/
instance : Append Report where
  append first second :=
    ⟨first.successes ++ second.successes, first.failures ++ second.failures⟩

theorem append_def (first second : Report) : first ++ second =
    ⟨first.successes ++ second.successes, first.failures ++ second.failures⟩ := rfl

theorem append_assoc (first second third : Report) :
    first ++ second ++ third = first ++ (second ++ third) := by
  simp only [append_def, List.append_assoc]

@[simp] theorem append_nil (report : Report) : report ++ ofOutcomes [] = report := by
  simp only [append_def, ofOutcomes, List.filter_nil, List.append_nil]

theorem ofOutcomes_append (first second : List Outcome) :
    ofOutcomes (first ++ second) = ofOutcomes first ++ ofOutcomes second := by
  simp only [append_def, ofOutcomes, List.filter_append]

theorem record_eq (report : Report) (outcome : Outcome) :
    report.record outcome = report ++ ofOutcomes [outcome] := by
  cases good : outcome.isOk <;> simp [record, append_def, ofOutcomes, good]

end Report

/-- The lines of a batch that are records. -/
def records (lines : List String) : List String :=
  lines.filter fun line => !Text.allBlank line

theorem records_blank {line : String} {lines : List String} (blank : Text.allBlank line = true) :
    records (line :: lines) = records lines :=
  List.filter_cons_of_neg (by simp [blank])

theorem records_record {line : String} {lines : List String}
    (nonblank : ¬ Text.allBlank line = true) : records (line :: lines) = line :: records lines :=
  List.filter_cons_of_pos (by simp [nonblank])

/-- The document of an outcome that is to be handed on: that of a call graph
with calls. -/
def Outcome.toHand? (outcome : Outcome) : Option Revision :=
  if outcome.status = .ok then outcome.document else none

section Delivery

variable {σ : Type} {delivery : Delivery σ} {world world' : σ} {outcome reported : Outcome}
  {doc : Revision}

theorem deliver_of_none (given : outcome.toHand? = none) :
    deliver (some delivery) outcome = pure outcome := by
  unfold Outcome.toHand? at given
  cases status : outcome.status with
  | ok =>
    rw [if_pos status] at given
    simp only [deliver, status, given]
  | _ => simp only [deliver, status]

theorem deliver_of_some (given : outcome.toHand? = some doc) :
    deliver (some delivery) outcome =
      tryCatch (do delivery doc; return outcome) (undelivered outcome) := by
  unfold Outcome.toHand? at given
  cases status : outcome.status with
  | ok =>
    rw [if_pos status] at given
    simp only [deliver, status, given]
  | _ => simp [status] at given

/-- What the system refuses is reported as a failure of the artifact, and
anything else goes on. -/
theorem undelivered_eq_ok {stop : Stop} :
    undelivered outcome stop world = .ok reported world' ↔
      ∃ failure, stop = .failure failure ∧ failure.isSystem = true ∧ world = world' ∧
        .ofFailure outcome.coordinate failure.kindName failure.message = reported := by
  cases stop with
  | fault fault => simp [undelivered, Attempt.throw_ne_ok]
  | failure failure =>
    by_cases system : failure.isSystem = true
    · simp [undelivered, system, Attempt.pure_eq_ok, and_comm]
    · simp [undelivered, system, Attempt.throw_ne_ok]

/-- Handing an outcome on changes nothing if there is no document to hand on.
Otherwise the document is taken, or the system refuses it, which is reported as
a failure of the same artifact. -/
theorem deliver_eq_ok :
    deliver (some delivery) outcome world = .ok reported world' ↔
      (outcome.toHand? = none ∧ world = world' ∧ outcome = reported) ∨
      (∃ doc, outcome.toHand? = some doc ∧ delivery doc world = .ok () world' ∧
        outcome = reported) ∨
      ∃ doc failure, outcome.toHand? = some doc ∧
        delivery doc world = .error (.failure failure) world' ∧ failure.isSystem = true ∧
        .ofFailure outcome.coordinate failure.kindName failure.message = reported := by
  cases given : outcome.toHand? with
  | none =>
    rw [deliver_of_none given, Attempt.pure_eq_ok]
    simp [and_comm]
  | some doc =>
    rw [deliver_of_some given, Attempt.tryCatch_eq_ok]
    simp only [Option.some.injEq, reduceCtorEq, false_and, false_or, Attempt.bind_eq_ok,
      Attempt.bind_eq_error]
    refine or_congr ?_ ?_
    · constructor
      · rintro ⟨_, _, taken, done⟩
        cases done
        exact ⟨doc, rfl, taken, rfl⟩
      · rintro ⟨_, rfl, taken, rfl⟩
        exact ⟨(), world', taken, rfl⟩
    · constructor
      · rintro ⟨stop, between, refused | ⟨_, _, -, done⟩, handled⟩
        · obtain ⟨failure, rfl, system, rfl, same⟩ := undelivered_eq_ok.1 handled
          exact ⟨doc, failure, rfl, refused, system, same⟩
        · cases done
      · rintro ⟨_, failure, rfl, refused, system, same⟩
        exact ⟨_, world', .inl refused, undelivered_eq_ok.2 ⟨failure, rfl, system, rfl, same⟩⟩

end Delivery

/-- What a batch makes of one record: its outcome, and what is reported. -/
structure Entry where
  outcome : Outcome
  reported : Outcome

section Course

variable {σ : Type}

/-- A batch goes through every line, from one world to another, and makes an
entry for each record. -/
inductive Course (process : σ → Octets → Trace Outcome) (delivery? : Option (Delivery σ)) :
    σ → List String → List Entry → σ → Prop
  | done (world : σ) : Course process delivery? world [] [] world
  | blank {world final : σ} {line : String} {lines : List String} {entries : List Entry}
      (blank : Text.allBlank line = true)
      (rest : Course process delivery? world lines entries final) :
      Course process delivery? world (line :: lines) entries final
  | record {world next final : σ} {line : String} {lines : List String} {entries : List Entry}
      {outcome reported : Outcome} (nonblank : ¬ Text.allBlank line = true)
      (processed : (process world (Text.encodeUtf8 line.toList)).result = .ok outcome)
      (delivered : deliver delivery? outcome world = .ok reported next)
      (rest : Course process delivery? next lines entries final) :
      Course process delivery? world (line :: lines) (⟨outcome, reported⟩ :: entries) final

variable {process : σ → Octets → Trace Outcome} {delivery? : Option (Delivery σ)}
  {state state' : BatchState σ} {line : String} {lines : List String}

/-- A record is gone through by processing it, handing its document on and
reporting. -/
theorem batchStep_eq_ok (nonblank : ¬ Text.allBlank line = true) :
    (batchStep process delivery? state line).stop = none ∧
        (batchStep process delivery? state line).state = state' ↔
      ∃ outcome reported,
        (process state.world (Text.encodeUtf8 line.toList)).result = .ok outcome ∧
        deliver delivery? outcome state.world = .ok reported state'.world ∧
        state'.report = state.report ++ .ofOutcomes [reported] := by
  rw [batchStep_eq_none nonblank]
  constructor
  · rintro ⟨outcome, reported, world, processed, delivered, rfl⟩
    exact ⟨outcome, reported, processed, delivered, Report.record_eq ..⟩
  · rintro ⟨outcome, reported, processed, delivered, same⟩
    refine ⟨outcome, reported, state'.world, processed, delivered, ?_⟩
    rw [Report.record_eq, ← same]

theorem course_blank_iff {world final : σ} {entries : List Entry}
    (blank : Text.allBlank line = true) :
    Course process delivery? world (line :: lines) entries final ↔
      Course process delivery? world lines entries final := by
  refine ⟨fun course => ?_, .blank blank⟩
  cases course with
  | blank _ course => exact course
  | record nonblank _ _ _ => exact absurd blank nonblank

/-- A batch goes through every line just when there is a course, and then the
report is that on the entries of the course. -/
theorem runBatchFrom_through_iff :
    (runBatchFrom process delivery? state lines).stop = none ∧
        (runBatchFrom process delivery? state lines).state = state' ↔
      ∃ entries, Course process delivery? state.world lines entries state'.world ∧
        state'.report = state.report ++ .ofOutcomes (entries.map Entry.reported) := by
  induction lines generalizing state with
  | nil =>
    constructor
    · rintro ⟨-, rfl⟩
      exact ⟨[], .done _, (Report.append_nil _).symm⟩
    · rintro ⟨entries, course, same⟩
      cases state
      cases state'
      cases course
      simp only [List.map_nil, Report.append_nil] at same
      exact ⟨rfl, by rw [runBatchFrom, same]⟩
  | cons line rest ih =>
    rw [runBatchFrom_cons_through_iff, ih]
    by_cases blank : Text.allBlank line = true
    · simp only [batchStep_blank blank, course_blank_iff blank, true_and]
    · constructor
      · rintro ⟨step, entries, course, told⟩
        obtain ⟨outcome, reported, processed, delivered, before⟩ :=
          (batchStep_eq_ok blank).1 ⟨step, rfl⟩
        refine ⟨⟨outcome, reported⟩ :: entries, .record blank processed delivered course, ?_⟩
        rw [told, before, Report.append_assoc, ← Report.ofOutcomes_append]
        rfl
      · rintro ⟨entries, course, told⟩
        cases course with
        | blank nonblank _ => exact absurd nonblank blank
        | @record _ next _ _ _ entries outcome reported _ processed delivered course =>
          have through : (batchStep process delivery? state line).stop = none ∧
              (batchStep process delivery? state line).state =
                ⟨next, state.report ++ .ofOutcomes [reported]⟩ :=
            (batchStep_eq_ok blank).2 ⟨outcome, reported, processed, delivered, rfl⟩
          obtain ⟨step, after⟩ := through
          rw [after]
          refine ⟨step, entries, course, ?_⟩
          rw [told, Report.append_assoc, ← Report.ofOutcomes_append]
          rfl

variable {world final : σ} {entries : List Entry}

theorem exists_course (through : (runBatch process delivery? world lines).stop = none) :
    ∃ entries, Course process delivery? world lines entries
        (runBatch process delivery? world lines).state.world ∧
      (runBatch process delivery? world lines).state.report =
        .ofOutcomes (entries.map Entry.reported) :=
  runBatchFrom_through_iff.1 ⟨through, rfl⟩

/-- Each entry of a course is made of one of the lines. -/
theorem Course.exists_line (course : Course process delivery? world lines entries final)
    {entry : Entry} (mem : entry ∈ entries) :
    ∃ line ∈ lines, ∃ before after,
      (process before (Text.encodeUtf8 line.toList)).result = .ok entry.outcome ∧
      deliver delivery? entry.outcome before = .ok entry.reported after := by
  induction course with
  | done world => cases mem
  | blank blank rest ih =>
    obtain ⟨line, here, made⟩ := ih mem
    exact ⟨line, List.mem_cons_of_mem _ here, made⟩
  | record nonblank processed delivered rest ih =>
    rcases List.mem_cons.1 mem with rfl | mem
    · exact ⟨_, List.mem_cons_self, _, _, processed, delivered⟩
    · obtain ⟨line, here, made⟩ := ih mem
      exact ⟨line, List.mem_cons_of_mem _ here, made⟩

/-- The entries of a course are made of the records, one of each and in their
order. -/
theorem Course.made (course : Course process delivery? world lines entries final) :
    List.Forall₂ (fun line entry => ∃ before after,
      (process before (Text.encodeUtf8 line.toList)).result = .ok entry.outcome ∧
      deliver delivery? entry.outcome before = .ok entry.reported after)
      (records lines) entries := by
  induction course with
  | done world => exact .nil
  | blank blank _ ih => rwa [records_blank blank]
  | record nonblank processed delivered _ ih =>
    rw [records_record nonblank]
    exact .cons ⟨_, _, processed, delivered⟩ ih

/-- A course leaves nothing open of the run that it is the course of. -/
theorem Course.run (course : Course process delivery? world lines entries final) :
    (runBatch process delivery? world lines).stop = none ∧
      (runBatch process delivery? world lines).state =
        ⟨final, .ofOutcomes (entries.map Entry.reported)⟩ :=
  runBatchFrom_through_iff.2 ⟨entries, course, rfl⟩

end Course

/-! Artifacts with one method, which calls itself. -/

/-- What an analyzer finds in the classes of such an artifact. -/
def selfCalling : RawGraph where
  nodes := [⟨.application, 1, "La/T", "g", "()V"⟩]
  edges := [⟨1, 1, .invokestatic⟩]
  types := ∅
  nodup := by decide
  closed := by decide

/-- An analyzer that finds one method in any classes, if there are any. -/
def findingOne : Analyzer := fun files classpath =>
  match classpath.map fun path => files.node? path.segments with
  | [some (.file (_ :: _))] => .ok selfCalling
  | _ => .error (.failure (.analyzerExited 1 "no classes"))

/-- The record of an artifact that was released at the start of the epoch. -/
def recordOf (group artifact version : String) : String :=
  "\x7b\"groupId\":\"" ++ group ++ "\",\"artifactId\":\"" ++ artifact ++
    "\",\"version\":\"" ++ version ++ "\",\"date\":0\x7d"

end CallGraph.Pipeline
