import CallGraph.FileTree.Failure
import CallGraph.Json.Value
import CallGraph.Jvm.Name
import CallGraph.Maven.Coordinate
import CallGraph.Schema.Defect
import CallGraph.Timestamp
/-!
What can go wrong with one artifact. A failure ends the work on its artifact and is reported; it
has a kind, under which it is counted, and a wording. A fault is a condition that the program does
not provide for, and ends the whole run.
-/
namespace CallGraph

/-- The kinds of failures that have to do with artifacts. -/
inductive FailureKind where
  | format
  | malformedInput
  | notFound
  | fetch
  | analysis
deriving DecidableEq, Repr

/-- The name of a kind in reports. -/
def FailureKind.name : FailureKind → String
  | .format => "FormatError"
  | .malformedInput => "MalformedInput"
  | .notFound => "NotFound"
  | .fetch => "FetchFailure"
  | .analysis => "AnalysisFailure"

/-- Why there is no call graph of an artifact. -/
inductive Failure where
  /-- A record that is no JSON, with the reason. -/
  | recordUnreadable (reason : String)
  | recordNoObject
  | recordWithoutDate (artifact : String)
  | coordinate (defect : Maven.CoordinateDefect)
  | timestamp (value : Json)
  /-- A text that is no address or leads to one that is none, with the reason. -/
  | invalidUrl (url reason : String)
  | nothingAt (url : String)
  /-- An address that could not be reached, with the reason. -/
  | unreachable (url reason : String)
  | inNoRepository (what : String)
  /-- A file that no repository served, with the addresses that failed. -/
  | notRetrieved (what : String) (urls : List String)
  /-- A build file that is no document, with the reason. -/
  | pomUnreadable (reason : String)
  /-- A build file with a dependency that does not say on what. -/
  | pomIncomplete
  /-- An analyzer that did not end in time; the time as it was given. -/
  | analyzerTimedOut (seconds : String)
  /-- An analyzer that ended with another status than zero. -/
  | analyzerExited (status : Int) (errors : String)
  | analyzerNotStarted (e : SystemError)
  /-- A raw call graph that does not follow the schema, with what the schema says of it. -/
  | rawGraph (defects : List Schema.Defect) (reason : String)
  /-- A name in a raw call graph that cannot be read. -/
  | jvm (defect : Jvm.Defect)
  | system (e : SystemError)
  | reported (kind : FailureKind) (text : String)
  /-- A refusal of the system that another party names and words. -/
  | systemReported (name text : String)

namespace Failure

/-- The kind of a failure, or the system's name for its refusal. -/
def kind : Failure → FailureKind ⊕ String
  | .recordUnreadable _ | .recordNoObject | .recordWithoutDate _ | .coordinate _ | .timestamp _
  | .invalidUrl .. | .pomUnreadable _ | .pomIncomplete | .rawGraph .. => .inl .malformedInput
  | .nothingAt _ | .inNoRepository _ => .inl .notFound
  | .unreachable .. | .notRetrieved .. => .inl .fetch
  | .analyzerTimedOut _ | .analyzerExited .. | .analyzerNotStarted _ => .inl .analysis
  | .jvm (.uri _) => .inl .format
  | .jvm _ => .inl .malformedInput
  | .system e => .inr e.errno.name
  | .reported kind _ => .inl kind
  | .systemReported name _ => .inr name

/-- The name under which a failure is counted. -/
def kindName (failure : Failure) : String :=
  match failure.kind with
  | .inl kind => kind.name
  | .inr name => name

/-- The failure is a refusal of the system and says nothing of the artifact. -/
def isSystem (failure : Failure) : Bool :=
  match failure.kind with
  | .inl _ => false
  | .inr _ => true

def message : Failure → String
  | .recordUnreadable reason => reason
  | .recordNoObject => "Coordinate record must be a JSON object"
  | .recordWithoutDate artifact => "Coordinate record for " ++ artifact ++ " is missing 'date'"
  | .coordinate defect => defect.message
  | .timestamp value => Timestamp.invalidMessage value
  | .invalidUrl url reason => "Invalid URL " ++ Text.quoted url ++ ": " ++ reason
  | .nothingAt url => "Could not find URL: " ++ url
  | .unreachable url reason => "Error retrieving URL " ++ url ++ ": " ++ reason
  | .inNoRepository what => what ++ " not found in any repository"
  | .notRetrieved what urls => "Could not retrieve " ++ what ++ ": " ++ String.intercalate ", " urls
  | .pomUnreadable reason => "Unparseable POM: " ++ reason
  | .pomIncomplete => "POM dependency is missing groupId or artifactId"
  | .analyzerTimedOut seconds => "Analyzer timed out after " ++ seconds ++ "s"
  | .analyzerExited status errors =>
    "Analyzer exited with status " ++ status.repr ++ ": " ++ errors
  | .analyzerNotStarted e => "Analyzer could not be started: " ++ e.message
  | .rawGraph _ reason => "Invalid raw call graph: " ++ reason
  | .jvm defect => defect.message
  | .system e => e.message
  | .reported _ text => text
  | .systemReported _ text => text

end Failure

/-- A condition that ends the whole run. -/
inductive Fault where
  /-- A text of digits that is not read as a number. -/
  | unreadableNumeral
  /-- An integer that a document cannot hold. -/
  | integerTooLarge
  /-- A number with too many digits to be written. -/
  | numberTooLong
  /-- Data that ask for calls deeper inside one another than there is room for. -/
  | tooDeep
  /-- A file name with a NUL character. -/
  | nulInName
  /-- A build file in a character set that is not known. -/
  | unknownCharset
  /-- A build file in a character set that cannot be used. -/
  | wideCharset
  /-- A build file in a coding that is none of octets. -/
  | unusableCharset (name : String)
  | emptyCommand
  /-- A limit to the time of the analyzer or of an answer that cannot be kept. -/
  | limitTooLong
  /-- A command line with a quotation that does not end. -/
  | unclosedQuotation
  /-- A file that is not in UTF-8. -/
  | notUtf8
  /-- A home directory that is not known. -/
  | unknownHome
deriving DecidableEq, Repr

/-- The wording of a condition that ends the whole run. -/
def Fault.message : Fault → String
  | .unreadableNumeral => "a text of digits cannot be read as a number"
  | .integerTooLarge => "an integer is too large for a document"
  | .numberTooLong => "a number has too many digits to be written"
  | .tooDeep => "there is no room for calls so deep inside one another"
  | .nulInName => "a file name has a NUL character"
  | .unknownCharset => "the character set of a build file is not known"
  | .wideCharset => "the character set of a build file cannot be used"
  | .unusableCharset name => "the coding of a build file cannot be used: " ++ name
  | .emptyCommand => "Analyzer command must not be empty"
  | .limitTooLong => "a limit to the time is too long"
  | .unclosedQuotation => "a quotation in the analyzer command does not end"
  | .notUtf8 => "a file is not in UTF-8"
  | .unknownHome => "a home directory is not known"

/-- Why work ends before its end. -/
inductive Stop where
  | failure (failure : Failure)
  | fault (fault : Fault)

/-- A failure of an operation on a file. -/
def FileError.stop : FileError → Stop
  | .system e => .failure (.system e)
  | .nulInName => .fault .nulInName

/-- How a place where there may be no directory ends work. -/
def FileTree.DirectoryError.stop : FileTree.DirectoryError → Stop
  | .file e => e.stop
  | .tooDeep => .fault .tooDeep

def Timestamp.Defect.stop : Timestamp.Defect → Stop
  | .invalid value => .failure (.timestamp value)
  | .tooManyDigits => .fault .unreadableNumeral
  | .tooDeep => .fault .tooDeep

def Maven.RecordDefect.stop : Maven.RecordDefect → Stop
  | .coordinate defect => .failure (.coordinate defect)
  | .tooDeep => .fault .tooDeep

end CallGraph
