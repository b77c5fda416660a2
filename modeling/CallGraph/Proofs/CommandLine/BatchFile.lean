import CallGraph.CommandLine.Run
import CallGraph.Proofs.Json.Grammar
import CallGraph.Proofs.Pipeline.Course
import CallGraph.Proofs.Text.Lines
import CallGraph.Proofs.Text.Utf8

/-! Batch files. A file holds one record in each line. It is cut into lines at
every character that ends lines by any convention, and three of these may stand
in a JSON text as they are: U+0085, U+2028 and U+2029. A file is read as the
records that it was made of exactly if none of these is in them. -/
namespace CallGraph

/-! Lines. -/

namespace Text

/-- The characters that end lines and are neither control characters of ASCII
nor white space of JSON. -/
def wideSeparators : List Char := ['\u0085', '\u2028', '\u2029']

/-- From U+0020 on, only the wide separators end lines. -/
theorem separates_of_high {c : Char} (high : 0x20 ≤ c.toNat) (ends : endsLine c = true) :
    c ∈ wideSeparators := by
  have number : c.toNat = 0x85 ∨ c.toNat = 0x2028 ∨ c.toNat = 0x2029 := by
    simp only [endsLine, Bool.or_eq_true, Bool.and_eq_true, decide_eq_true_eq, beq_iff_eq] at ends
    omega
  rw [← Char.ofNat_toNat c]
  rcases number with same | same | same <;> rw [same] <;> decide

/-- In a text on one line that holds no control characters but white space, only
the wide separators end lines. -/
theorem unbroken_iff {cs : List Char} (orderly : Json.Orderly cs)
    (single : '\n' ∉ cs ∧ '\r' ∉ cs) : Unbroken cs ↔ ∀ c ∈ wideSeparators, c ∉ cs := by
  constructor
  · intro whole c separates mem
    have ends : endsLine c = true := by
      simp only [wideSeparators, List.mem_cons, List.not_mem_nil, or_false] at separates
      rcases separates with rfl | rfl | rfl <;> rfl
    exact absurd ends (by simp [whole c mem])
  · intro free c mem
    cases orderly c mem with
    | inl space =>
      simp only [Json.isSpace, Bool.or_eq_true, beq_iff_eq] at space
      rcases space with ((rfl | rfl) | rfl) | rfl
      · decide
      · decide
      · exact absurd mem single.1
      · exact absurd mem single.2
    | inr high =>
      rw [← Bool.not_eq_true]
      exact fun ends => free c (separates_of_high high ends) mem

end Text

/-! Records. -/

namespace Json

theorem IsObjectText.brace_mem {cs : List Char} (text : IsObjectText cs) : '\x7b' ∈ cs := by
  obtain ⟨-, object, -⟩ := text
  cases object <;> simp

end Json

namespace CommandLine
open Listing Pipeline

variable {around : Surroundings} {settings : Settings} {analyzer : Analyzer}
  {how : Generation} {dir? : Option FilePath} {path : String} {lines texts : List String}

theorem not_allBlank {text : String} (object : Json.IsObjectText text.toList) :
    ¬ Text.allBlank text = true := by
  intro blank
  have brace := List.all_eq_true.1 blank _ object.brace_mem
  revert brace
  decide

/-- The file at the path is made of the texts, with line feeds between them. -/
def IsBatchFile (around : Surroundings) (path : String) (texts : List String) : Prop :=
  ∃ file, around.place path = .ok file ∧
    around.files.read file = .ok (Text.encodeUtf8 (Text.joined texts))

/-- The files are read as the texts that they are made of. -/
theorem batchLines_eq (file : IsBatchFile around path texts) :
    batchLines around path = .ok (Text.lines (String.ofList (Text.joined texts))) := by
  obtain ⟨file, placed, content⟩ := file
  rw [batchLines, placed]
  refine bind_eq_ok.2 ⟨file, rfl, ?_⟩
  simp only [content, Text.decodeUtf8?_encodeUtf8]
  rfl

theorem batchLines_eq_iff (file : IsBatchFile around path texts)
    (objects : ∀ text ∈ texts, Json.IsObjectText text.toList)
    (single : ∀ text ∈ texts, '\n' ∉ text.toList ∧ '\r' ∉ text.toList) :
    batchLines around path = .ok texts ↔
      ∀ text ∈ texts, ∀ c ∈ Text.wideSeparators, c ∉ text.toList := by
  have nonempty : ∀ text ∈ texts, text ≠ "" := by
    rintro text mem rfl
    exact absurd (objects "" mem).brace_mem (by simp)
  rw [batchLines_eq file, Except.ok.injEq, Text.lines_joined_iff nonempty]
  exact forall₂_congr fun text mem => Text.unbroken_iff (objects text mem).orderly (single text mem)

/-! Batches. -/

/-- A run that is stopped does not end well. -/
theorem status_of_finishOf (stop : Stop) : (finishOf stop).1.status = 1 := by
  cases stop <;> rfl

section

variable [Platform]

/-- The work on a record, while the files are those of a workspace. -/
def processing (around : Surroundings) (settings : Settings) (analyzer : Analyzer)
    (how : Generation) (space : Workspace) : Octets → Trace Outcome :=
  processRecord (around.fetcher settings) analyzer space.files (reposOf settings how)

/-- Documents are published as the command asks for. -/
def publishing (how : Generation) (dir? : Option FilePath) : Delivery Workspace :=
  fun doc => (doc.publish dir? how.toOutput).adaptExcept publishStop

/-- The work on the lines of a batch. -/
def workOn (around : Surroundings) (settings : Settings) (analyzer : Analyzer) (how : Generation)
    (dir? : Option FilePath) (lines : List String) : BatchRun Workspace :=
  Pipeline.runBatch (processing around settings analyzer how) (some (publishing how dir?))
    ⟨around.files, ""⟩ lines

/-- The entry is what becomes of the record. -/
def OwnEntry (around : Surroundings) (settings : Settings) (analyzer : Analyzer) (how : Generation)
    (dir? : Option FilePath) (text : String) (entry : Entry) : Prop :=
  ∃ before after,
    (processing around settings analyzer how before (Text.encodeUtf8 text.toList)).result =
      .ok entry.outcome ∧
    deliver (some (publishing how dir?)) entry.outcome before = .ok entry.reported after

/-- A run over lines ends well if it goes through all of them, and then the
report is printed. -/
theorem runLines_output
    (ended : (runLines around settings analyzer how dir? lines).finish.status = 0) :
    (workOn around settings analyzer how dir? lines).stop = none ∧
    (runLines around settings analyzer how dir? lines).output =
      (workOn around settings analyzer how dir? lines).state.world.output ++
        (workOn around settings analyzer how dir? lines).state.report.text ++ "\n" := by
  unfold runLines at ended ⊢
  simp only at ended ⊢
  split at ended
  · next through => exact ⟨through, rfl⟩
  · next stop _ => exact absurd ((status_of_finishOf stop).symm.trans ended) Nat.one_ne_zero

/-- A batch that ends well has gone through the lines of its file. -/
theorem runBatch_eq_runLines (read : batchLines around path = .ok lines)
    (ended : (runBatch around settings analyzer path how).finish.status = 0) :
    ∃ dir?, around.place? (outputDirOf settings how) = .ok dir? ∧
      runBatch around settings analyzer path how =
        runLines around settings analyzer how dir? lines := by
  unfold runBatch at ended ⊢
  rw [read] at ended ⊢
  cases placed : around.place? (outputDirOf settings how) with
  | error stop =>
    rw [placed] at ended
    exact absurd ((status_of_finishOf stop).symm.trans ended) Nat.one_ne_zero
  | ok dir? => exact ⟨dir?, rfl, rfl⟩

/-- **A batch file is read as the records that it is made of** if no wide
separator is in them, and only then. If it is and the batch ends well, it has
gone through the records one after the other, and each has one outcome in the
report, which is its own. -/
theorem runBatch_records (settings : Settings) (analyzer : Analyzer) (how : Generation)
    (file : IsBatchFile around path texts)
    (objects : ∀ text ∈ texts, Json.IsObjectText text.toList)
    (single : ∀ text ∈ texts, '\n' ∉ text.toList ∧ '\r' ∉ text.toList) :
    (batchLines around path = .ok texts ↔
      ∀ text ∈ texts, ∀ c ∈ Text.wideSeparators, c ∉ text.toList) ∧
    (batchLines around path = .ok texts →
      (runBatch around settings analyzer path how).finish.status = 0 →
      ∃ dir? entries space,
        runBatch around settings analyzer path how =
          runLines around settings analyzer how dir? texts ∧
        Course (processing around settings analyzer how) (some (publishing how dir?))
          ⟨around.files, ""⟩ texts entries space ∧
        List.Forall₂ (OwnEntry around settings analyzer how dir?) texts entries ∧
        (runBatch around settings analyzer path how).output =
          space.output ++ (Report.ofOutcomes (entries.map Entry.reported)).text ++ "\n") := by
  refine ⟨batchLines_eq_iff file objects single, fun read ended => ?_⟩
  -- No text is blank, so every line is a record.
  have all : records texts = texts :=
    List.filter_eq_self.2 fun text mem => by simpa using not_allBlank (objects text mem)
  obtain ⟨dir?, -, same⟩ := runBatch_eq_runLines read ended
  rw [same] at ended
  obtain ⟨through, output⟩ := runLines_output ended
  obtain ⟨entries, course, reported⟩ := exists_course through
  have made : List.Forall₂ (OwnEntry around settings analyzer how dir?) (records texts) entries :=
    course.made
  rw [all] at made
  refine ⟨dir?, entries, _, same, course, made, ?_⟩
  rw [same, output, workOn, reported]

end

/-! A program with a batch file. -/

/-- A program with a batch file of the texts, no other files, and no web. -/
def withBatch (texts : List String) : Surroundings where
  files := FileTree.put ⟨[], ∅⟩ ["records"] (.file (Text.encodeUtf8 (Text.joined texts)))
  home? := fun _ => none
  web := fun _ => Http.Server.exchange fun _ => .error "unreachable"
  launcher := fun _ _ => .error .nulInName

theorem withBatch_isBatchFile
    (placed : ((withBatch texts).place "records").toOption = some ⟨"/", ["records"]⟩)
    (content : ((withBatch texts).files.read ⟨"/", ["records"]⟩).toOption =
      some (Text.encodeUtf8 (Text.joined texts))) :
    IsBatchFile (withBatch texts) "records" texts :=
  ⟨_, toOption_eq_some_iff.1 placed, toOption_eq_some_iff.1 content⟩

def isObject : Json → Bool
  | .object _ => true
  | _ => false

theorem isObjectText_of_isObject {text : String}
    (read : (Json.ofChars? .strict text.toList).map isObject = some true) :
    Json.IsObjectText text.toList := by
  obtain ⟨value, found, object⟩ := Option.map_eq_some_iff.1 read
  cases value with
  | object members => exact Json.isObjectText_of_ofChars? found
  | _ => cases object

/-- Two records: one that says nothing, and one of an artifact that cannot be
fetched. -/
def unreachablePair : List String :=
  ["\x7b\x7d", "\x7b\"groupId\":\"g\",\"artifactId\":\"a\",\"version\":\"1\",\"date\":0\x7d"]

/-- A command without options. -/
def plainly : Generation := ⟨[], none, false, none, none⟩

section

open scoped Platform

theorem runBatch_records_pair :
    batchLines (withBatch unreachablePair) "records" = .ok unreachablePair ∧
    (runBatch (withBatch unreachablePair) {} failing "records" plainly).finish.status = 0 ∧
    ∃ dir? entries, List.Forall₂
      (OwnEntry (withBatch unreachablePair) {} failing plainly dir?) unreachablePair entries := by
  have file : IsBatchFile (withBatch unreachablePair) "records" unreachablePair :=
    withBatch_isBatchFile (by decide +kernel) (by decide +kernel)
  have read : ∀ text ∈ unreachablePair,
      (Json.ofChars? .strict text.toList).map isObject = some true := by decide +kernel
  have single : ∀ text ∈ unreachablePair, '\n' ∉ text.toList ∧ '\r' ∉ text.toList := by
    decide +kernel
  have whole : batchLines (withBatch unreachablePair) "records" = .ok unreachablePair :=
    toOption_eq_some_iff.1 (by decide +kernel)
  have ended :
      (runBatch (withBatch unreachablePair) {} failing "records" plainly).finish.status = 0 := by
    decide +kernel
  obtain ⟨-, each⟩ := runBatch_records {} failing plainly file
    (fun text mem => isObjectText_of_isObject (read text mem)) single
  obtain ⟨dir?, entries, -, -, -, made, -⟩ := each whole ended
  exact ⟨whole, ended, dir?, entries, made⟩

end

/-- A record with a line separator in a member that is not looked for. -/
def separated : String :=
  "\x7b\"groupId\":\"g\",\"artifactId\":\"a\",\"version\":\"1\",\"date\":0,\"note\":\"\u2028\"\x7d"

/-- The separator makes two lines of the record. -/
theorem batchLines_separated :
    IsBatchFile (withBatch [separated]) "records" [separated] ∧
    Json.IsObjectText separated.toList ∧ ('\n' ∉ separated.toList ∧ '\r' ∉ separated.toList) ∧
    (batchLines (withBatch [separated]) "records").toOption.map List.length = some 2 ∧
    batchLines (withBatch [separated]) "records" ≠ .ok [separated] := by
  have two : (batchLines (withBatch [separated]) "records").toOption.map List.length = some 2 := by
    decide +kernel
  refine ⟨withBatch_isBatchFile ?_ ?_, isObjectText_of_isObject ?_, ?_, two, ?_⟩
  · decide +kernel
  · decide +kernel
  · decide +kernel
  · decide +kernel
  · intro whole
    rw [whole] at two
    cases two

end CommandLine

end CallGraph
