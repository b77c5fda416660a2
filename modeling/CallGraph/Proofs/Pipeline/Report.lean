import CallGraph.Pipeline.External
import CallGraph.Proofs.Http.Answers
import CallGraph.Proofs.Maven.Coordinate
import CallGraph.Proofs.Pipeline.Course
import CallGraph.Proofs.Text.Decimal
import CallGraph.Proofs.Text.Lines

/-! The lines of a report. Coordinates are free of blanks, and so of the characters
that end lines; the kinds of failures have names of their own, but for what others
report as refusals of the system. Where these are named without line ends as well,
nothing that comes from a record or a repository ends a line of the report or
starts one. -/
namespace CallGraph
open Listing Text

/-- What others report as refusals of the system is named without line ends. -/
def PlainRefusals {α : Type} (result : Except Stop α) : Prop :=
  ∀ name text, result = .error (.failure (.systemReported name text)) → Unbroken name.toList

section PlainRefusals

variable {α β : Type}

theorem PlainRefusals.bind {x : Except Stop α} {next : α → Except Stop β} (first : PlainRefusals x)
    (rest : ∀ a, PlainRefusals (next a)) : PlainRefusals (x >>= next) := by
  intro name text failed
  rcases bind_eq_error.1 failed with failed | ⟨a, -, failed⟩
  · exact first name text failed
  · exact rest a name text failed

/-- Only others report refusals of the system. -/
theorem plainRefusals_mapError {ε : Type} {x : Except ε α} {stop : ε → Stop}
    (own : ∀ e name text, stop e ≠ .failure (.systemReported name text)) :
    PlainRefusals (x.mapError stop) := by
  intro name text failed
  obtain ⟨e, -, same⟩ := mapError_eq_error.1 failed
  exact absurd same (own e name text)

theorem Failure.unbroken_kindName {failure : Failure} (plain : ∀ name text,
    failure = .systemReported name text → Unbroken name.toList) :
    Unbroken failure.kindName.toList := by
  have own : ∀ kind : FailureKind, Unbroken kind.name.toList := by
    intro kind
    cases kind <;> decide
  have refused : ∀ errno : Errno, Unbroken errno.name.toList := by
    intro errno
    cases errno <;> decide
  unfold Failure.kindName
  split
  · exact own _
  · next name system =>
    unfold Failure.kind at system
    split at system <;> cases system
    · exact refused _
    · exact plain _ _ rfl

theorem PlainRefusals.unbroken {x : Except Stop α} (plain : PlainRefusals x) {failure : Failure}
    (failed : x = .error (.failure failure)) : Unbroken failure.kindName.toList :=
  Failure.unbroken_kindName fun name text same => plain name text (same ▸ failed)

end PlainRefusals

namespace Maven

variable {fetcher : Fetcher} {coordinate : Coordinate}

theorem fetchFirst_plainRefusals (fetches : ∀ url, PlainRefusals (fetcher url).contents)
    (what : String) (failed urls : List String) :
    PlainRefusals (fetchFirst fetcher what failed urls).result := by
  obtain ⟨before, url, after, rfl, passed, stays⟩ | passed := exists_first_or_all fetcher urls
  · rw [fetchFirst_of_first passed stays]
    exact fetches url
  · rw [fetchFirst_of_all passed, nowhere]
    split <;> rintro name text ⟨⟩

theorem resolveDependencies_plainRefusals [Platform]
    (fetches : ∀ url, PlainRefusals (fetcher url).contents) (coordinate : Coordinate) :
    PlainRefusals (resolveDependencies fetcher coordinate).result := by
  rw [resolveDependencies, Trace.result_bind]
  refine (fetchFirst_plainRefusals fetches _ _ _).bind fun pom => plainRefusals_mapError ?_
  rintro ((_ | _ | _ | _) | _) name text ⟨⟩

/-- Blanks are kept out of coordinates, and line ends with them. -/
theorem Coordinate.unbroken_text (coordinate : Coordinate) : Unbroken coordinate.text.toList := by
  intro c mem
  by_contra ends
  rw [Bool.not_eq_false] at ends
  cases (isBlank_of_endsLine ends).symm.trans (coordinate.isBlank_of_mem_text mem)

end Maven

namespace Pipeline
open Maven (Fetcher Coordinate)

variable {fetcher : Fetcher} {analyzer : Analyzer} {files : FileTree} {repos : List String}
  {record : Octets} {outcome reported : Outcome}

/-! ## Outcomes -/

theorem generate_plainRefusals [Platform] (fetches : ∀ url, PlainRefusals (fetcher url).contents)
    (analyzes : ∀ files classpath, PlainRefusals (analyzer files classpath))
    (files : FileTree) (coordinate : Coordinate) (timestamp : Int) :
    PlainRefusals (generate fetcher analyzer files coordinate timestamp).result := by
  simp only [generate, generateForJar, Trace.result_bind]
  refine (Maven.resolveDependencies_plainRefusals fetches coordinate).bind fun depset => ?_
  refine (Maven.fetchFirst_plainRefusals fetches _ _ _).bind fun jar => ?_
  refine PlainRefusals.bind (analyzes _ _) fun raw => ?_
  refine PlainRefusals.bind (plainRefusals_mapError ?_) fun graph => plainRefusals_mapError ?_
  · rintro defect name text ⟨⟩
  · rintro long name text ⟨⟩

/-- Nothing in the outcome ends a line of the report. -/
structure Outcome.Plain (outcome : Outcome) : Prop where
  coordinate : Unbroken outcome.coordinate.toList
  failureKind : ∀ kind, outcome.failureKind = some kind → Unbroken kind.toList

theorem plain_ofDocument {label : String} (unbroken : Unbroken label.toList) (doc : Revision) :
    (Outcome.ofDocument label doc).Plain :=
  ⟨unbroken, fun _ none => nomatch none⟩

theorem plain_ofFailure {label kind : String} (unbroken : Unbroken label.toList)
    (named : Unbroken kind.toList) (message : String) :
    (Outcome.ofFailure label kind message).Plain :=
  ⟨unbroken, fun _ same => Option.some.inj same ▸ named⟩

theorem plain_rejected {label : String} (unbroken : Unbroken label.toList) (failure : Failure) :
    (rejected label failure).Plain :=
  plain_ofFailure unbroken (by decide) failure.message

/-- Whatever a record holds, its outcome is plain. -/
theorem plain_processRecord [Platform] (fetches : ∀ url, PlainRefusals (fetcher url).contents)
    (analyzes : ∀ files classpath, PlainRefusals (analyzer files classpath))
    (done : (processRecord fetcher analyzer files repos record).result = .ok outcome) :
    outcome.Plain := by
  by_cases named : ∃ coordinate, Names repos record coordinate
  · obtain ⟨coordinate, names⟩ := named
    by_cases dated : ∃ timestamp, Accepted repos record coordinate timestamp
    · obtain ⟨timestamp, accepted⟩ := dated
      rw [processRecord_accepted accepted] at done
      rcases outcomeOf_eq_ok.1 done with ⟨doc, -, rfl⟩ | ⟨failure, failed, rfl⟩
      · exact plain_ofDocument coordinate.unbroken_text doc
      · have plain := generate_plainRefusals fetches analyzes files coordinate timestamp
        exact plain_ofFailure coordinate.unbroken_text (plain.unbroken failed) failure.message
    · have undated : ∀ timestamp, ¬ Accepted repos record coordinate timestamp :=
        fun timestamp accepted => dated ⟨timestamp, accepted⟩
      obtain ⟨result, same, only⟩ := processRecord_undated names undated
      rw [same] at done
      obtain ⟨failure, rfl⟩ := only outcome done
      exact plain_rejected coordinate.unbroken_text failure
  · obtain ⟨result, same, only⟩ := processRecord_unnamed fetcher analyzer files
      fun coordinate names => named ⟨coordinate, names⟩
    rw [same] at done
    obtain ⟨failure, rfl⟩ := only outcome done
    exact plain_rejected (by decide) failure

/-- Refusals to take a document that others report are named without line ends. -/
def PlainDelivery {σ : Type} (delivery : Delivery σ) : Prop :=
  ∀ doc before after name text,
    delivery doc before = .error (.failure (.systemReported name text)) after →
      Unbroken name.toList

/-- A refusal to take the document is reported under the same coordinate. -/
theorem Outcome.Plain.deliver {σ : Type} {delivery? : Option (Delivery σ)} {world next : σ}
    (delivers : ∀ delivery, delivery? = some delivery → PlainDelivery delivery)
    (plain : outcome.Plain)
    (delivered : deliver delivery? outcome world = .ok reported next) : reported.Plain := by
  cases delivery? with
  | none =>
    obtain ⟨rfl, -⟩ := EStateM.Result.ok.inj delivered
    exact plain
  | some delivery =>
    rcases deliver_eq_ok.1 delivered with ⟨-, -, rfl⟩ | ⟨doc, -, -, rfl⟩ |
      ⟨doc, failure, -, refused, -, rfl⟩
    · exact plain
    · exact plain
    · have named : Unbroken failure.kindName.toList := Failure.unbroken_kindName
        fun name text same => delivers delivery rfl doc world next name text (same ▸ refused)
      exact plain_ofFailure plain.coordinate named failure.message

/-! ## The text of a report -/

namespace Report

variable {report : Report}

/-- The line for an artifact. -/
def outcomeLine (outcome : Outcome) : String :=
  if outcome.isOk then successLine outcome else failureLine outcome

/-- The six lines that every report has. -/
def summary (report : Report) : List String :=
  ["", "===================SUMMARY=================",
    "Total number of analyzed coordinates: " ++ report.total.repr,
    "Total number of successful: " ++ report.successes.length.repr,
    "Total number of failed: " ++ report.failures.length.repr,
    "Most common exceptions:"]

/-- The line for a kind of failure and how often it occurs. -/
def kindLine (entry : String × Nat) : String := "\t[" ++ entry.1 ++ " - " ++ entry.2.repr ++ "]"

/-- The line for the share of successes, if there are any artifacts. -/
def rateLines (report : Report) : List String :=
  (report.successRate.map fun rate => "Success rate: " ++ rate.repr ++ "%").toList

theorem lines_eq (report : Report) : report.lines =
    report.successes.map successLine ++ report.failures.map failureLine ++ report.summary ++
      report.failureKinds.map kindLine ++ report.rateLines := rfl

/-- How often each of some kinds occurs. -/
def tally (kinds : List String) : Table String Nat :=
  kinds.foldl (fun counts kind => counts.update kind fun n => n.getD 0 + 1) ∅

theorem tally_concat (kinds : List String) (kind : String) :
    tally (kinds ++ [kind]) = (tally kinds).update kind fun n => n.getD 0 + 1 := by
  rw [tally, List.foldl_concat, ← tally]

theorem get?_tally (kinds : List String) (kind : String) : (tally kinds).get? kind =
    if kinds.count kind = 0 then none else some (kinds.count kind) := by
  induction kinds using List.reverseRecOn with
  | nil => rfl
  | append_singleton kinds last ih =>
    rw [tally_concat, Table.get?_update, List.count_append, List.count_singleton]
    by_cases same : kind = last
    · subst same
      rw [if_pos rfl, ih]
      split <;> simp_all
    · rw [if_neg same, ih]
      simp [Ne.symm same]

/-- How often each kind of failure occurs, as the kinds came up. -/
def counts (report : Report) : Table String Nat := tally (report.failures.map countedKind)

theorem failureKinds_eq (report : Report) :
    report.failureKinds = report.counts.entries.mergeSort fun a b => b.2 ≤ a.2 := rfl

theorem failureKinds_perm (report : Report) : report.failureKinds.Perm report.counts.entries :=
  List.mergeSort_perm _ _

/-- Every kind of failure is listed once, with the number of its failures. -/
theorem mem_failureKinds {kind : String} {n : Nat} : (kind, n) ∈ report.failureKinds ↔
    n = report.failures.countP (fun outcome => countedKind outcome = kind) ∧ n ≠ 0 := by
  have counted : (report.failures.map countedKind).count kind =
      report.failures.countP fun outcome => countedKind outcome = kind := by
    rw [List.count, List.countP_map]
    rfl
  rw [report.failureKinds_perm.mem_iff, ← Table.get?_eq_some_iff, counts, get?_tally, counted]
  split <;> simp_all [eq_comm]

theorem failureKinds_nodup (report : Report) : (report.failureKinds.map Prod.fst).Nodup :=
  (report.failureKinds_perm.map Prod.fst).nodup_iff.2 report.counts.nodup

/-! ## Lines -/

theorem unbroken_repr (n : Nat) : Unbroken n.repr.toList := by
  intro c mem
  have digit := isAsciiDigit_of_mem_repr mem
  simp only [isAsciiDigit, Bool.and_eq_true, decide_eq_true_eq, Char.le_def,
    UInt32.le_iff_toNat_le] at digit
  simp only [endsLine, Bool.or_eq_false_iff, Bool.and_eq_false_iff, beq_eq_false_iff_ne,
    decide_eq_false_iff_not]
  have low : (48 : Nat) ≤ c.toNat := digit.1
  have high : c.toNat ≤ 57 := digit.2
  omega

theorem unbroken_successLine {outcome : Outcome} (plain : outcome.Plain) :
    Unbroken (successLine outcome).toList := by
  have empty : Unbroken (if outcome.status = .empty then " (empty)" else "").toList := by
    split <;> decide +kernel
  have calls := unbroken_repr ((outcome.document.map Revision.callCount).getD 0)
  exact (((Unbroken.append (by decide +kernel) calls).append (by decide +kernel)).append
    plain.coordinate).append empty

theorem unbroken_failureLine {outcome : Outcome} (plain : outcome.Plain) :
    Unbroken (failureLine outcome).toList := by
  have kind : Unbroken (outcome.failureKind.getD "None").toList := by
    cases named : outcome.failureKind with
    | none => decide +kernel
    | some kind => exact plain.failureKind kind named
  exact (plain.coordinate.append (by decide +kernel)).append kind

theorem unbroken_countedKind {outcome : Outcome} (plain : outcome.Plain) :
    Unbroken (countedKind outcome).toList := by
  unfold countedKind
  split
  · decide +kernel
  · decide +kernel
  · next kind _ named => exact plain.failureKind kind named

theorem unbroken_kindLine (plain : ∀ outcome ∈ report.failures, outcome.Plain)
    {entry : String × Nat} (mem : entry ∈ report.failureKinds) :
    Unbroken (kindLine entry).toList := by
  obtain ⟨kind, n⟩ := entry
  obtain ⟨rfl, occurs⟩ := mem_failureKinds.1 mem
  obtain ⟨outcome, failed, same⟩ := List.countP_pos_iff.1 (Nat.pos_of_ne_zero occurs)
  obtain rfl := of_decide_eq_true same
  have named := unbroken_countedKind (plain outcome failed)
  exact (((Unbroken.append (by decide +kernel) named).append (by decide +kernel)).append
    (unbroken_repr _)).append (by decide +kernel)

theorem unbroken_of_mem_summary {line : String} (mem : line ∈ report.summary) :
    Unbroken line.toList := by
  have counted : ∀ (what : String) (n : Nat), Unbroken what.toList →
      Unbroken (what ++ n.repr).toList := fun what n fine => fine.append (unbroken_repr n)
  simp only [summary, List.mem_cons, List.not_mem_nil, or_false] at mem
  rcases mem with rfl | rfl | rfl | rfl | rfl | rfl
  · decide +kernel
  · decide +kernel
  · exact counted _ _ (by decide +kernel)
  · exact counted _ _ (by decide +kernel)
  · exact counted _ _ (by decide +kernel)
  · decide +kernel

theorem unbroken_of_mem_rateLines {line : String} (mem : line ∈ report.rateLines) :
    Unbroken line.toList := by
  rw [rateLines, Option.mem_toList, Option.map_eq_some_iff] at mem
  obtain ⟨rate, -, rfl⟩ := mem
  exact (Unbroken.append (by decide +kernel) (unbroken_repr rate)).append (by decide +kernel)

theorem unbroken_of_mem_lines (successes : ∀ outcome ∈ report.successes, outcome.Plain)
    (failures : ∀ outcome ∈ report.failures, outcome.Plain) :
    ∀ line ∈ report.lines, Unbroken line.toList := by
  intro line mem
  simp only [lines_eq, List.mem_append, List.mem_map] at mem
  obtain (((⟨outcome, success, rfl⟩ | ⟨outcome, failure, rfl⟩) | fixed) | ⟨entry, listed, rfl⟩) |
    rate := mem
  · exact unbroken_successLine (successes outcome success)
  · exact unbroken_failureLine (failures outcome failure)
  · exact unbroken_of_mem_summary fixed
  · exact unbroken_kindLine failures listed
  · exact unbroken_of_mem_rateLines rate

/-- A report does not end with an empty line. -/
theorem getLast?_lines (report : Report) : report.lines.getLast? ≠ some "" := by
  have split : report.lines = report.successes.map successLine ++ report.failures.map failureLine ++
      report.summary.dropLast ++ "Most common exceptions:" ::
        (report.failureKinds.map kindLine ++ report.rateLines) := by
    simp [lines_eq, summary]
  have some : ∀ line ∈ "Most common exceptions:" ::
      (report.failureKinds.map kindLine ++ report.rateLines), line ≠ "" := by
    intro line mem
    simp only [rateLines, List.mem_cons, List.mem_append, List.mem_map, Option.mem_toList,
      Option.map_eq_some_iff] at mem
    rcases mem with rfl | ⟨entry, -, rfl⟩ | ⟨rate, -, rfl⟩
    · decide
    · simp [kindLine]
    · simp
  rw [split, List.getLast?_append_of_ne_nil _ (List.cons_ne_nil _ _)]
  exact fun empty => some "" (List.mem_of_getLast? empty) rfl

theorem lines_text (successes : ∀ outcome ∈ report.successes, outcome.Plain)
    (failures : ∀ outcome ∈ report.failures, outcome.Plain) :
    Text.lines report.text = report.lines := by
  have whole : report.text = String.ofList (joined report.lines) := by
    rw [← String.toList_inj, text, String.toList_intercalate]
    exact String.toList_ofList.symm
  rw [whole, lines_joined (unbroken_of_mem_lines successes failures) (getLast?_lines report)]

theorem coordinate_infix (outcome : Outcome) :
    outcome.coordinate.toList <:+: (outcomeLine outcome).toList := by
  unfold outcomeLine
  split
  · refine ⟨("Number of calls: " ++ ((outcome.document.map Revision.callCount).getD 0).repr ++
      " COORDINATE: ").toList,
      (if outcome.status = .empty then " (empty)" else "").toList, ?_⟩
    rw [← String.toList_append, ← String.toList_append]
    rfl
  · refine ⟨[], (" ERROR: " ++ outcome.failureKind.getD "None").toList, ?_⟩
    rw [List.nil_append, ← String.toList_append, ← String.append_assoc]
    rfl

/-- Lines that tell some outcomes: one for each of them, the successes first,
which names its artifact; six that every report has; one for each kind of
failure, with the number of its failures; and one for the share of successes,
unless there are no outcomes. -/
structure Tells (outcomes : List Outcome) (lines : List String) : Prop where
  parts : lines =
    (outcomes.filter Outcome.isOk).map outcomeLine ++
      (outcomes.filter fun outcome => !outcome.isOk).map outcomeLine ++
      (ofOutcomes outcomes).summary ++ (ofOutcomes outcomes).failureKinds.map kindLine ++
      (ofOutcomes outcomes).rateLines
  named : ∀ outcome ∈ outcomes, outcome.coordinate.toList <:+: (outcomeLine outcome).toList
  fixed : (ofOutcomes outcomes).summary.length = 6
  distinct : ((ofOutcomes outcomes).failureKinds.map Prod.fst).Nodup
  counted : ∀ kind n, (kind, n) ∈ (ofOutcomes outcomes).failureKinds ↔
    n = (outcomes.filter fun outcome => !outcome.isOk).countP
      (fun outcome => countedKind outcome = kind) ∧ n ≠ 0
  rated : (ofOutcomes outcomes).rateLines.length = if outcomes = [] then 0 else 1

theorem total_ofOutcomes (outcomes : List Outcome) :
    (ofOutcomes outcomes).total = outcomes.length :=
  (List.length_eq_length_filter_add Outcome.isOk).symm

theorem tells_lines (outcomes : List Outcome) : Tells outcomes (ofOutcomes outcomes).lines where
  parts := by
    have successes : (outcomes.filter Outcome.isOk).map successLine =
        (outcomes.filter Outcome.isOk).map outcomeLine := by
      refine List.map_congr_left fun outcome mem => ?_
      rw [outcomeLine, if_pos (List.mem_filter.1 mem).2]
    have failures : (outcomes.filter fun outcome => !outcome.isOk).map failureLine =
        (outcomes.filter fun outcome => !outcome.isOk).map outcomeLine := by
      refine List.map_congr_left fun outcome mem => ?_
      rw [outcomeLine, if_neg (by simpa using (List.mem_filter.1 mem).2)]
    rw [← successes, ← failures]
    exact lines_eq _
  named outcome _ := coordinate_infix outcome
  fixed := rfl
  distinct := failureKinds_nodup _
  counted _ _ := mem_failureKinds
  rated := by
    rw [rateLines, successRate, total_ofOutcomes]
    cases outcomes <;> rfl

end Report

/-! ## Batches -/

section Batches

variable {σ : Type} {files : σ → FileTree} {delivery? : Option (Delivery σ)} {world : σ}
  {lines : List String} {run : BatchRun σ}

/-- **No record forges a line of the report.** Where others name what they report
as refusals of the system without line ends, the report of a batch that goes
through every line has exactly the lines that tell the outcomes of its records,
whatever the records hold. -/
theorem runBatch_report_tells [Platform] (fetches : ∀ url, PlainRefusals (fetcher url).contents)
    (analyzes : ∀ files classpath, PlainRefusals (analyzer files classpath))
    (delivers : ∀ delivery, delivery? = some delivery → PlainDelivery delivery)
    (ran : runBatch (fun world => processRecord fetcher analyzer (files world) repos) delivery?
      world lines = run)
    (through : run.stop = none) :
    ∃ outcomes, List.Forall₂ (fun line reported => ∃ before after outcome,
        (processRecord fetcher analyzer (files before) repos
          (Text.encodeUtf8 line.toList)).result = .ok outcome ∧
        deliver delivery? outcome before = .ok reported after) (records lines) outcomes ∧
      run.state.report = .ofOutcomes outcomes ∧
      Report.Tells outcomes (Text.lines run.state.report.text) := by
  subst ran
  obtain ⟨entries, course, report⟩ := exists_course through
  have plain : ∀ outcome ∈ entries.map Entry.reported, outcome.Plain := by
    intro outcome mem
    obtain ⟨entry, made, rfl⟩ := List.mem_map.1 mem
    obtain ⟨line, -, before, after, processed, delivered⟩ := course.exists_line made
    exact (plain_processRecord fetches analyzes processed).deliver delivers delivered
  refine ⟨entries.map Entry.reported, ?_, report, ?_⟩
  · rw [List.forall₂_map_right_iff]
    refine course.made.imp fun line entry made => ?_
    obtain ⟨before, after, processed, delivered⟩ := made
    exact ⟨before, after, entry.outcome, processed, delivered⟩
  · rw [report, Report.lines_text]
    · exact Report.tells_lines _
    · exact fun outcome success => plain outcome (List.mem_filter.1 success).1
    · exact fun outcome failure => plain outcome (List.mem_filter.1 failure).1

end Batches

/-! What a run asks itself, over HTTP, with a command or among its files, names
its refusals with names of its own. -/

theorem fetcher_plainRefusals (exchange : Http.Exchange) (url : String) :
    PlainRefusals (Http.fetcherOf exchange url).contents := by
  rw [Http.fetcher_contents]
  split
  · rintro name text ⟨⟩
  · unfold Http.contentsOf
    split
    · rintro name text ⟨⟩
    · rintro name text ⟨⟩
    · rintro name text ⟨⟩
    · unfold Http.readResponse
      split
      · rintro name text ⟨⟩
      · split <;> rintro name text ⟨⟩

theorem failureOf_own {limit : Option Seconds} {execution : Execution} (name text : String) :
    ExternalAnalyzer.failureOf limit execution ≠ some (.failure (.systemReported name text)) := by
  have ended : ExternalAnalyzer.failureOf.exitFailure execution ≠
      some (.failure (.systemReported name text)) := by
    unfold ExternalAnalyzer.failureOf.exitFailure
    split <;> simp
  unfold ExternalAnalyzer.failureOf
  split
  · split
    · simp
    · split
      · simp
      · exact ended
  · exact ended

theorem analyze_plainRefusals [Platform] (launcher : Launcher) (analyzer : ExternalAnalyzer)
    (files : FileTree) (classpath : List FilePath) :
    PlainRefusals (analyzer.analyze launcher files classpath) := by
  unfold ExternalAnalyzer.analyze
  split
  · rintro name text ⟨⟩
  · rintro name text ⟨⟩
  · split
    · next stop ended =>
      rintro name text ⟨⟩
      exact absurd ended (failureOf_own name text)
    · exact plainRefusals_mapError fun _ _ _ same => nomatch same

theorem writeTo_plainDelivery [Platform] (dir : FilePath) : PlainDelivery (writeTo dir) := by
  intro doc before after name text refused
  obtain ⟨e, -, stops⟩ := writeTo_eq_error.1 refused
  rcases e with ((_ | _) | _) | (_ | _) | _ <;> cases stops

/-! A batch whose records name one artifact, none, and one with a line end in its
name. -/

/-- A server that has the same contents everywhere. -/
def serving (contents : String) : Http.Server :=
  fun _ => .ok ⟨200, none, Text.encodeUtf8 contents.toList⟩

/-- A command that prints the same output whatever it is to work on. -/
def printing (output : String) : Launcher := fun _ _ => .ok (.done output "" 0)

section

open scoped Platform

/-- The work on records whose classes have no methods, and whose documents would be
written to a directory. -/
def runPrinted (lines : List String) : BatchRun Workspace :=
  runBatch (fun space : Workspace => processRecord (Http.fetcher (serving "<project/>"))
    (ExternalAnalyzer.analyze (printing "\x7b\"nodes\":[],\"edges\":[]\x7d")
      ⟨["analyze"], none, by decide⟩)
    space.files []) (some (writeTo ⟨"", ["out"]⟩)) emptySpace lines

/-- Records that name an artifact, nothing, and an artifact with a line end and
more in its name. -/
def forgingLines : List String :=
  [recordOf "g" "a" "1", " ", "[]", recordOf "g\\nh:a:1 ERROR: " "a" "1"]

theorem runBatch_report_tells_forging : (runPrinted forgingLines).stop = none ∧
    ∃ outcomes : List Outcome, outcomes.length = 3 ∧
      Report.Tells outcomes (Text.lines (runPrinted forgingLines).state.report.text) := by
  have through : (runPrinted forgingLines).stop = none :=
    Option.isNone_iff_eq_none.1 (by decide +kernel)
  have fetches : ∀ url, PlainRefusals (Http.fetcher (serving "<project/>") url).contents :=
    fetcher_plainRefusals _
  have delivers : ∀ delivery, some (writeTo ⟨"", ["out"]⟩) = some delivery →
      PlainDelivery delivery := by
    rintro delivery ⟨⟩
    exact writeTo_plainDelivery _
  refine ⟨through, ?_⟩
  unfold runPrinted at through ⊢
  obtain ⟨outcomes, made, -, tells⟩ := runBatch_report_tells fetches (analyze_plainRefusals _ _)
    delivers rfl through
  exact ⟨outcomes, made.length_eq.symm.trans (by decide +kernel), tells⟩

end

end Pipeline

end CallGraph
