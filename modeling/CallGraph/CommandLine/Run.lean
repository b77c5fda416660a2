import CallGraph.CommandLine.Invocation
import CallGraph.CommandLine.Words
import CallGraph.Http.Client
import CallGraph.Pipeline.Batch
import CallGraph.Pipeline.External
import CallGraph.Revision.Publication
import CallGraph.Revision.Validation
import CallGraph.Settings.File
import CallGraph.Text.Lines
/-!
Carrying out what is asked of the program, given the files, the web and the programs around it. A
command for one artifact either publishes its document or says why not; a batch reports on all of
its records.
-/
namespace CallGraph.CommandLine

/-- What is around the program. -/
structure Surroundings where
  files : FileTree
  /-- The home directory that a first segment with a tilde stands for, if it is known. -/
  home? : String → Option FilePath
  web : Http.Web
  launcher : Launcher

/-- How a run ends. -/
inductive Finish where
  | refused (refusal : Refusal)
  | exited (status : Nat)
  /-- A condition comes up that the program does not provide for. -/
  | crashed (stop : Stop)

/-- The status that a run ends with. -/
def Finish.status : Finish → Nat
  | .refused .help => 0
  | .refused .misuse => 2
  | .exited status => status
  | .crashed _ => 1

/-- What has become of a run. -/
structure Session where
  finish : Finish
  output : String
  errors : String
  files : FileTree
  requested : List String

namespace Surroundings

/-- The run ends without a change to anything. -/
def ended (around : Surroundings) (finish : Finish) (errors : String) : Session :=
  ⟨finish, "", errors, around.files, []⟩

def fetcher (around : Surroundings) (settings : Settings) : Maven.Fetcher :=
  Http.fetcherOf (around.web settings.httpTimeout)

/-- The absolute path that an argument names. -/
def place (around : Surroundings) (text : String) : Except Stop FilePath :=
  match (FilePath.ofText text).expandHome around.home? with
  | none => .error (.fault .unknownHome)
  | some path =>
    if text.toList.contains '\x00' then .error (.fault .nulInName)
    else .ok (path.resolve around.files.cwd)

/-- The directory that an argument names, if there is one. -/
def place? (around : Surroundings) (text? : Option String) : Except Stop (Option FilePath) :=
  match text? with
  | none => .ok none
  | some text => (around.place text).map some

section

variable [Platform]

/-- The settings in the file that is named, or in the usual one. -/
def settings (around : Surroundings) (named? : Option String) :
    Except Settings.Defect Settings := do
  let named? ← (around.place? named?).mapError .stopped
  Settings.load around.files ⟨"/", around.files.cwd⟩ named?

def external (around : Surroundings) (settings : Settings) (command : List String) :
    Except Stop Pipeline.Analyzer :=
  (Pipeline.ExternalAnalyzer.make command (settings.analyzerTimeout.map .fraction)).map
    (Pipeline.ExternalAnalyzer.analyze around.launcher)

/-- The analyzer to use, if there is one: a raw call graph that is there already, the command
that is asked for, or the one of the settings. -/
def analyzer? (around : Surroundings) (settings : Settings) (how : Generation) :
    Except Stop (Option Pipeline.Analyzer) :=
  match how.rawGraph, how.analyzer, settings.analyzerCommand with
  | some path, _, _ => (around.place path).map fun path => some (Pipeline.precomputed path)
  | none, some text, _ =>
    match splitWords text with
    | none => .error (.fault .unclosedQuotation)
    | some words => (around.external settings words).map some
  | none, none, [] => .ok none
  | none, none, command => (around.external settings command).map some

end

end Surroundings

def reposOf (settings : Settings) (how : Generation) : List String :=
  if how.repos.isEmpty then settings.repositories else how.repos

/-- The directory for documents, as an argument or the settings name it. -/
def outputDirOf (settings : Settings) (how : Generation) : Option String :=
  how.outputDir.or settings.outputDir

/-- The coordinate that a text stands for, and the repositories to look for it in. -/
def coordinateOf (repos : List String) (text : String) : Except Stop Maven.Coordinate :=
  match Maven.Coordinate.parse text with
  | .ok coordinate => .ok (coordinate.withRepos repos)
  | .error defect => .error (.failure (.coordinate defect))

/-- The time that a text stands for. -/
def timestampOf (text : String) : Except Stop Int :=
  (Timestamp.ofText text).mapError Timestamp.Defect.stop

/-- How a document that is not published ends a run. -/
def publishStop : Revision.PublishError → Stop
  | .directory e => e.stop
  | .file e => e.stop
  | .integer _ => .fault .integerTooLarge

/-! ## One artifact -/

section

variable [Platform]

def coordDocument (around : Surroundings) (settings : Settings) (analyzer : Pipeline.Analyzer)
    (coordinate timestamp : String) (how : Generation) : Trace Revision := do
  let coordinate ← .ofExcept (coordinateOf (reposOf settings how) coordinate)
  let timestamp ← .ofExcept (timestampOf timestamp)
  Pipeline.generate (around.fetcher settings) analyzer around.files coordinate timestamp

/-- The document of a file of classes. -/
def jarDocument (around : Surroundings) (settings : Settings) (analyzer : Pipeline.Analyzer)
    (path product version timestamp : String) (dependencies : List String) (how : Generation) :
    Trace Revision := do
  let coordinates ← .ofExcept (dependencies.mapM (coordinateOf (reposOf settings how)))
  let depset ← Maven.mergeDependencies (around.fetcher settings) coordinates
  let jar ← .ofExcept (around.place path)
  let timestamp ← .ofExcept (timestampOf timestamp)
  Pipeline.generateForJar analyzer around.files jar product version timestamp depset

/-- Publishes a document, if it has calls. -/
def publishCalls (around : Surroundings) (settings : Settings) (how : Generation)
    (doc : Revision) : Attempt Stop Workspace Unit := do
  unless doc.isEmpty do
    let dir? ← .ofExcept (around.place? (outputDirOf settings how))
    (doc.publish dir? how.toOutput).adaptExcept publishStop

end

/-- How a run ends that is stopped, and what it says of that. -/
def finishOf : Stop → Finish × String
  | .failure failure =>
    (.exited 1, "error: " ++ (if failure.isSystem then "" else failure.kindName ++ ": ") ++
      failure.message ++ "\n")
  | .fault fault => (.crashed (.fault fault), "")

/-- The run of a command for one artifact, which ends with publishing its document. When it is
stopped, it leaves what has been done. -/
def runSingle [Platform] (around : Surroundings) (settings : Settings) (how : Generation)
    (work : Trace Revision) : Session :=
  let attempt : Attempt Stop Workspace Unit := do
    publishCalls around settings how (← Attempt.ofExcept work.result)
  match attempt ⟨around.files, ""⟩ with
  | .ok () space => ⟨.exited 0, space.output, "", space.files, work.requested⟩
  | .error stop space =>
    let (finish, errors) := finishOf stop
    ⟨finish, space.output, errors, space.files, work.requested⟩

/-! ## Batches -/

/-- The lines of a batch file, or how the run ends without them. -/
def batchLines (around : Surroundings) (path : String) : Except (Finish × String) (List String) := do
  let path ← (around.place path).mapError finishOf
  match around.files.read path with
  | .error (.system e) =>
    throw (.exited 2, "error: couldn't read coordinates file: " ++ e.message ++ "\n")
  | .error .nulInName => throw (finishOf (.fault .nulInName))
  | .ok contents =>
    match Text.decodeUtf8? contents with
    | none => throw (finishOf (.fault .notUtf8))
    | some text => return Text.lines (String.ofList text)

section

variable [Platform]

/-- The run of a batch, after its lines are read. -/
def runLines (around : Surroundings) (settings : Settings) (analyzer : Pipeline.Analyzer)
    (how : Generation) (dir? : Option FilePath) (lines : List String) : Session :=
  let process (space : Workspace) : Octets → Trace Pipeline.Outcome :=
    Pipeline.processRecord (around.fetcher settings) analyzer space.files (reposOf settings how)
  let delivery : Pipeline.Delivery Workspace := fun doc =>
    (doc.publish dir? how.toOutput).adaptExcept publishStop
  let run := Pipeline.runBatch process (some delivery) ⟨around.files, ""⟩ lines
  let space := run.state.world
  match run.stop with
  | none =>
    ⟨.exited 0, space.output ++ run.state.report.text ++ "\n", "", space.files,
      run.trace.requested⟩
  | some stop =>
    let (finish, errors) := finishOf stop
    ⟨finish, space.output, errors, space.files, run.trace.requested⟩

def runBatch (around : Surroundings) (settings : Settings) (analyzer : Pipeline.Analyzer)
    (path : String) (how : Generation) : Session :=
  let prepared := do
    let dir? ← (around.place? (outputDirOf settings how)).mapError finishOf
    return (dir?, ← batchLines around path)
  match prepared with
  | .ok (dir?, lines) => runLines around settings analyzer how dir? lines
  | .error (finish, errors) => around.ended finish errors

end

/-! ## Validation -/

/-- The lines on what is found in a document. -/
def findingLines (path : FilePath) (found : Revision.Findings) : String :=
  let line (finding : Revision.Finding) : String :=
    finding.location path.text ++ ": " ++ finding.problem.message ++ "\n"
  String.join ((found.warnings.map fun finding => "warning: " ++ line finding) ++
    found.errors.map line)

/-- The contents of the file at a path, or the system's refusal. -/
def contentsAt (files : FileTree) (path : FilePath) : Except Stop (Except SystemError Octets) :=
  match files.read path with
  | .ok contents => .ok (.ok contents)
  | .error (.system e) => .ok (.error e)
  | .error .nulInName => .error (.fault .nulInName)

/-- What validation finds in the file that an argument names. -/
def findingsAt [Platform] (around : Surroundings) (path : FilePath) :
    Except Stop Revision.Findings := do
  let contents ← contentsAt around.files path
  (Revision.validateFile contents).mapError fun _ => .fault .unreadableNumeral

def runValidation [Platform] (around : Surroundings) (path : String) : Session :=
  match around.place path with
  | .error stop => around.ended (.crashed stop) ""
  | .ok path =>
    match findingsAt around path with
    | .error stop => around.ended (.crashed stop) ""
    | .ok found => around.ended (.exited (if found.ok then 0 else 1)) (findingLines path found)

/-! ## All commands -/

/-- What is said where there is no analyzer. -/
def noAnalyzer : String :=
  "error: no analyzer configured (use --analyzer, --raw-graph or " ++
    "[analyzer] command in javacg.toml)\n"

section

variable [Platform]

/-- The run of a command that generates call graphs, given how it goes on with an analyzer. -/
def withAnalyzer (around : Surroundings) (settings : Settings) (how : Generation)
    (next : Pipeline.Analyzer → Session) : Session :=
  match around.analyzer? settings how with
  | .error stop => around.ended (.crashed stop) ""
  | .ok none => around.ended (.exited 2) noAnalyzer
  | .ok (some analyzer) => next analyzer

def runCommand (around : Surroundings) (settings : Settings) : Command → Session
  | .coord coordinate timestamp how =>
    withAnalyzer around settings how fun analyzer =>
      runSingle around settings how
        (coordDocument around settings analyzer coordinate timestamp how)
  | .jar path product version timestamp dependencies how =>
    withAnalyzer around settings how fun analyzer =>
      runSingle around settings how
        (jarDocument around settings analyzer path product version timestamp dependencies how)
  | .batch path how =>
    withAnalyzer around settings how fun analyzer => runBatch around settings analyzer path how
  | .validate path => runValidation around path

/-- The run of the program with arguments. -/
def run (around : Surroundings) (arguments : List String) : Session :=
  match Invocation.read arguments with
  | .error refusal => around.ended (.refused refusal) ""
  | .ok invocation =>
    match around.settings invocation.settings with
    | .ok settings => runCommand around settings invocation.command
    | .error (.stopped stop) => around.ended (.crashed stop) ""
    | .error defect =>
      around.ended (.exited 2) ("error: " ++ defect.message?.getD "" ++ "\n")

end

end CallGraph.CommandLine
