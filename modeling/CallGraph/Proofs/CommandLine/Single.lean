import CallGraph.CommandLine.Run
import CallGraph.Proofs.Revision.Publication

/-! Commands for one artifact. They differ in the work on the document only, and
the document is the last thing: when a run ends well it has been published, or
has no calls, and when it ends in any other way no file has changed and nothing
has been said. -/
namespace CallGraph.CommandLine
open Listing Attempt Revision Pipeline

/-- What a command for one artifact does to come by the document. -/
abbrev Work := Surroundings → Settings → Analyzer → Trace Revision

/-- The options of a command for one artifact, and its work. -/
def Command.single? [Platform] : Command → Option (Generation × Work)
  | .coord coordinate timestamp how =>
    some (how, fun around settings analyzer =>
      coordDocument around settings analyzer coordinate timestamp how)
  | .jar path product version timestamp dependencies how =>
    some (how, fun around settings analyzer =>
      jarDocument around settings analyzer path product version timestamp dependencies how)
  | .batch .. | .validate .. => none

/-- What a run changes, before it and after it. -/
def Surroundings.space (around : Surroundings) : Workspace := ⟨around.files, ""⟩

def Session.space (session : Session) : Workspace := ⟨session.files, session.output⟩

variable {around : Surroundings} {settings : Settings} {how : Generation} {work : Work}
  {command : Command} {doc : Revision} {before after : Workspace} {stop : Stop}

theorem ended_untouched (around : Surroundings) (finish : Finish) (errors : String) :
    Untouched around.space (around.ended finish errors).space :=
  ⟨.refl _, rfl⟩

theorem finishOf_ne (stop : Stop) : (finishOf stop).1 ≠ .exited 0 := by
  cases stop <;> simp [finishOf]

section

variable [Platform]

theorem runCommand_single (single : command.single? = some (how, work)) :
    runCommand around settings command = withAnalyzer around settings how fun analyzer =>
      runSingle around settings how (work around settings analyzer) := by
  cases command with
  | coord => cases single; rfl
  | jar => cases single; rfl
  | batch => cases single
  | validate => cases single

/-! Publishing. -/

/-- The document has no calls and nothing is done, or it is published as the
options and the settings ask. -/
inductive Issues (around : Surroundings) (settings : Settings) (how : Generation)
    (doc : Revision) (before after : Workspace) : Prop
  | empty (empty : doc.isEmpty = true) (same : after = before)
  | published {dir? : Option FilePath} (calls : doc.isEmpty = false)
      (placed : around.place? (outputDirOf settings how) = .ok dir?)
      (published : doc.publish dir? how.toOutput before = .ok () after)

theorem publishCalls_eq_ok : publishCalls around settings how doc before = .ok () after ↔
    Issues around settings how doc before after := by
  unfold publishCalls
  cases calls : doc.isEmpty with
  | true =>
    constructor
    · rintro ⟨⟩
      exact .empty calls rfl
    · rintro (⟨-, rfl⟩ | ⟨other, -, -⟩)
      · rfl
      · cases calls.symm.trans other
  | false =>
    constructor
    · intro done
      obtain ⟨dir?, _, step, done⟩ := Attempt.bind_eq_ok.1 done
      obtain ⟨placed, rfl⟩ := ofExcept_eq_ok.1 step
      exact .published calls placed (adaptExcept_eq_ok.1 done)
    · rintro (⟨other, -⟩ | ⟨-, placed, published⟩)
      · cases calls.symm.trans other
      · exact Attempt.bind_eq_ok.2 ⟨_, _, ofExcept_eq_ok.2 ⟨placed, rfl⟩,
          adaptExcept_eq_ok.2 published⟩

theorem publishCalls_eq_error
    (refused : publishCalls around settings how doc before = .error stop after) :
    Untouched before after := by
  unfold publishCalls at refused
  cases calls : doc.isEmpty with
  | true =>
    rw [calls] at refused
    cases refused
  | false =>
    rw [calls] at refused
    rcases Attempt.bind_eq_error.1 refused with unplaced | ⟨dir?, _, step, refused⟩
    · obtain ⟨-, rfl⟩ := ofExcept_eq_error.1 unplaced
      exact ⟨.refl _, rfl⟩
    · obtain ⟨-, rfl⟩ := ofExcept_eq_ok.1 step
      obtain ⟨_, refused, -⟩ := adaptExcept_eq_error.1 refused
      exact publish_untouched refused

/-! Runs. -/

/-- A run that ends well has issued the document; any other has done nothing. -/
theorem runSingle_ends (around : Surroundings) (settings : Settings) (how : Generation)
    (work : Trace Revision) :
    ((runSingle around settings how work).finish = .exited 0 ∧ ∃ doc, work.result = .ok doc ∧
      Issues around settings how doc around.space (runSingle around settings how work).space) ∨
    ((runSingle around settings how work).finish ≠ .exited 0 ∧
      Untouched around.space (runSingle around settings how work).space) := by
  unfold runSingle
  simp only
  split
  · next space done =>
    obtain ⟨doc, _, step, done⟩ := Attempt.bind_eq_ok.1 done
    obtain ⟨generated, rfl⟩ := ofExcept_eq_ok.1 step
    exact .inl ⟨rfl, doc, generated, publishCalls_eq_ok.1 done⟩
  · next stop space refused =>
    refine .inr ⟨finishOf_ne stop, ?_⟩
    rcases Attempt.bind_eq_error.1 refused with failed | ⟨doc, _, step, refused⟩
    · obtain ⟨-, rfl⟩ := ofExcept_eq_error.1 failed
      exact ⟨.refl _, rfl⟩
    · obtain ⟨-, rfl⟩ := ofExcept_eq_ok.1 step
      exact publishCalls_eq_error refused

/-- A document that can be issued is issued. -/
theorem runSingle_issues {work : Trace Revision} (generated : work.result = .ok doc)
    (issues : Issues around settings how doc around.space after) :
    (runSingle around settings how work).finish = .exited 0 := by
  have done : (do publishCalls around settings how (← Attempt.ofExcept work.result) :
      Attempt Stop Workspace Unit) ⟨around.files, ""⟩ = .ok () after :=
    Attempt.bind_eq_ok.2 ⟨doc, _, ofExcept_eq_ok.2 ⟨generated, rfl⟩, publishCalls_eq_ok.2 issues⟩
  unfold runSingle
  simp only [done]

/-- The settings, the analyzer and the document that a run comes by. -/
structure Generates (around : Surroundings) (invocation : Invocation) (how : Generation)
    (work : Work) (settings : Settings) (doc : Revision) : Prop where
  loaded : around.settings invocation.settings = .ok settings
  document : ∃ analyzer, around.analyzer? settings how = .ok (some analyzer) ∧
    (work around settings analyzer).result = .ok doc

theorem Generates.unique {invocation : Invocation} {settings' : Settings} {doc' : Revision}
    (generates : Generates around invocation how work settings doc)
    (generates' : Generates around invocation how work settings' doc') :
    settings = settings' ∧ doc = doc' := by
  obtain ⟨loaded, analyzer, chosen, generated⟩ := generates
  obtain ⟨loaded', analyzer', chosen', generated'⟩ := generates'
  obtain rfl := Except.ok.inj (loaded.symm.trans loaded')
  obtain rfl := Option.some.inj (Except.ok.inj (chosen.symm.trans chosen'))
  exact ⟨rfl, Except.ok.inj (generated.symm.trans generated')⟩

/-- With settings and an analyzer, a run is the work on its document. -/
theorem run_eq_runSingle {arguments : List String} {invocation : Invocation}
    {analyzer : Analyzer} (read : Invocation.read arguments = .ok invocation)
    (single : invocation.command.single? = some (how, work))
    (loaded : around.settings invocation.settings = .ok settings)
    (chosen : around.analyzer? settings how = .ok (some analyzer)) :
    run around arguments = runSingle around settings how (work around settings analyzer) := by
  unfold run
  simp only [read, loaded, runCommand_single single, withAnalyzer, chosen]

/-- What a run on one artifact comes to, by how it ends. -/
theorem run_single (around : Surroundings) {arguments : List String} {invocation : Invocation}
    (read : Invocation.read arguments = .ok invocation)
    (single : invocation.command.single? = some (how, work)) :
    ((run around arguments).finish = .exited 0 ∧ ∃ settings doc,
      Generates around invocation how work settings doc ∧
      Issues around settings how doc around.space (run around arguments).space) ∨
    ((run around arguments).finish ≠ .exited 0 ∧
      Untouched around.space (run around arguments).space) := by
  cases loaded : around.settings invocation.settings with
  | error defect =>
    unfold run
    simp only [read, loaded]
    cases defect <;> exact .inr ⟨nofun, ended_untouched around _ _⟩
  | ok settings =>
    cases chosen : around.analyzer? settings how with
    | error stop =>
      unfold run
      simp only [read, loaded, runCommand_single single, withAnalyzer, chosen]
      exact .inr ⟨nofun, ended_untouched around _ _⟩
    | ok analyzer? =>
      cases analyzer? with
      | none =>
        unfold run
        simp only [read, loaded, runCommand_single single, withAnalyzer, chosen]
        exact .inr ⟨by simp [Surroundings.ended], ended_untouched around _ _⟩
      | some analyzer =>
        rw [run_eq_runSingle read single loaded chosen]
        rcases runSingle_ends around settings how (work around settings analyzer) with
          ⟨well, doc, generated, issues⟩ | badly
        · exact .inl ⟨well, settings, doc, ⟨loaded, analyzer, chosen, generated⟩, issues⟩
        · exact .inr badly

/-- **A command for one artifact is all or nothing.** It ends with 0 exactly if
its document is generated and has no calls, or can be published. Then a document
with calls is published: with a directory one file is created or replaced, and
on demand there is a line on the standard output. One without calls leaves
everything as it was. If the run ends in any other way, no file has changed and
nothing has been said. -/
theorem run_allOrNothing (around : Surroundings) {arguments : List String}
    {invocation : Invocation}
    (read : Invocation.read arguments = .ok invocation)
    (single : invocation.command.single? = some (how, work)) :
    ((run around arguments).finish = .exited 0 ↔ ∃ settings doc after,
      Generates around invocation how work settings doc ∧
      Issues around settings how doc around.space after) ∧
    (∀ settings doc, Generates around invocation how work settings doc →
      (run around arguments).finish = .exited 0 →
      (doc.isEmpty = true →
        (run around arguments).files = around.files ∧ (run around arguments).output = "") ∧
      (doc.isEmpty = false → ∃ dir?, around.place? (outputDirOf settings how) = .ok dir? ∧
        Published doc dir? how.toOutput around.space (run around arguments).space)) ∧
    ((run around arguments).finish ≠ .exited 0 →
      (∀ place, (run around arguments).files.file? place = around.files.file? place) ∧
      (run around arguments).output = "") := by
  refine ⟨⟨fun well => ?_, ?_⟩, fun settings doc generates well => ?_, fun badly => ?_⟩
  · obtain ⟨-, settings, doc, generates, issues⟩ | ⟨badly, -⟩ := run_single around read single
    · exact ⟨settings, doc, _, generates, issues⟩
    · exact absurd well badly
  · rintro ⟨settings, doc, after, ⟨loaded, analyzer, chosen, generated⟩, issues⟩
    rw [run_eq_runSingle read single loaded chosen]
    exact runSingle_issues generated issues
  · obtain ⟨-, settings', doc', generates', issues⟩ | ⟨badly, -⟩ := run_single around read single
    · obtain ⟨rfl, rfl⟩ := generates.unique generates'
      cases issues with
      | empty empty same =>
        refine ⟨fun _ => ?_, fun calls => by simp [empty] at calls⟩
        exact ⟨congrArg Workspace.files same, congrArg Workspace.output same⟩
      | published calls placed published =>
        exact ⟨fun empty => by simp [empty] at calls, fun _ => ⟨_, placed, publish_eq_ok published⟩⟩
    · exact absurd well badly
  · obtain ⟨well, -⟩ | ⟨-, untouched⟩ := run_single around read single
    · exact absurd well badly
    · exact ⟨untouched.files.file?, untouched.output⟩

end

/-- The code that a run ends with, if it is not ended by anything else. -/
def Finish.code? : Finish → Option Nat
  | .exited status => some status
  | _ => none

theorem exited_of_code? {finish : Finish} {status : Nat} (code : finish.code? = some status) :
    finish = .exited status := by
  cases finish with
  | exited => exact congrArg Finish.exited (Option.some.inj code)
  | _ => cases code

/-- A program with a raw call graph in a file and no web. -/
def withRawGraph (parts : List String) : Surroundings where
  files := FileTree.put ⟨[], ∅⟩ ["raw"] (.file (Text.encodeUtf8 (parts.flatMap String.toList)))
  home? := fun _ => none
  web := fun _ => Http.Server.exchange fun _ => .error "unreachable"
  launcher := fun _ _ => .error .nulInName

/-- A method that calls itself. -/
def recursionParts : List String := [
  "\x7b\"nodes\":[\x7b\"origin\":\"application\",\"id\":1,",
  "\"type\":\"La/T\",\"name\":\"g\",\"descriptor\":\"()V\"\x7d],",
  "\"edges\":[\x7b\"caller\":1,\"callee\":1,\"kind\":\"invokestatic\"\x7d]\x7d"]

/-- The arguments for the document of a file of classes, in a directory and on
the standard output. -/
def jarArguments (timestamp : String) : List String :=
  ["jar", "x.jar", "--raw-graph", "raw", "-o", "out", "--stdout", "-t", timestamp]

/-- The command line is read as a command for one artifact. -/
theorem exists_single [Platform] {arguments : List String}
    (here : ((Invocation.read arguments).toOption.bind fun invocation =>
      invocation.command.single?).isSome = true) :
    ∃ invocation how work, Invocation.read arguments = .ok invocation ∧
      invocation.command.single? = some (how, work) := by
  obtain ⟨⟨how, work⟩, single⟩ := Option.isSome_iff_exists.1 here
  obtain ⟨invocation, read, single⟩ := Option.bind_eq_some_iff.1 single
  exact ⟨invocation, how, work, toOption_eq_some_iff.1 read, single⟩

section

open scoped Platform

theorem run_allOrNothing_recursion :
    ∃ invocation how work settings doc dir?,
      Invocation.read (jarArguments "0") = .ok invocation ∧
      invocation.command.single? = some (how, work) ∧
      Generates (withRawGraph recursionParts) invocation how work settings doc ∧
      Published doc dir? how.toOutput (withRawGraph recursionParts).space
        (run (withRawGraph recursionParts) (jarArguments "0")).space := by
  have here : ((Invocation.read (jarArguments "0")).toOption.bind fun invocation =>
      invocation.command.single?).isSome = true := by decide +kernel
  obtain ⟨invocation, how, work, read, single⟩ := exists_single here
  have well : (run (withRawGraph recursionParts) (jarArguments "0")).finish = .exited 0 :=
    exited_of_code? (by decide +kernel)
  have spoken : (run (withRawGraph recursionParts) (jarArguments "0")).output ≠ "" := by
    decide +kernel
  obtain ⟨ends, leaves, -⟩ := run_allOrNothing (withRawGraph recursionParts) read single
  obtain ⟨settings, doc, -, generates, -⟩ := ends.1 well
  obtain ⟨empty, published⟩ := leaves settings doc generates well
  cases calls : doc.isEmpty with
  | true => exact absurd (empty calls).2 spoken
  | false =>
    obtain ⟨dir?, -, published⟩ := published calls
    exact ⟨invocation, how, work, settings, doc, dir?, read, single, generates, published⟩

/-- A directory has been made for a document that cannot be written. -/
example : (run (withRawGraph recursionParts) (jarArguments "18446744073709551616")).finish.code? =
      none ∧
    (run (withRawGraph recursionParts) (jarArguments "18446744073709551616")).files.node? ["out"] =
      some .directory ∧
    (run (withRawGraph recursionParts) (jarArguments "18446744073709551616")).output = "" := by
  decide +kernel

end

end CallGraph.CommandLine
