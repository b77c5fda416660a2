import CallGraph.FileTree.Failure
import CallGraph.Json.Reader
import CallGraph.Revision.Reader
import CallGraph.Platform
import CallGraph.Text.Numeral
/-!
Validation of documents. Beyond the schema, a document has to be consistent: every type and
method URI can be read, each method stands under its own type, no two methods have one number,
and every call goes between methods that the document lists.

Validation reports all that is wrong. It cannot judge a document in which a text of digits that
stands where a number is wanted is no number; see `Text.NumeralDefect`.
-/
namespace CallGraph.Revision

/-- The part of a document that a finding is about. -/
inductive Section where
  | document
  | forge
  | generator
  | cha
  | internalCalls
  | externalCalls
deriving DecidableEq, Repr

def Section.name : Section → String
  | .document => "document"
  | .forge => "forge"
  | .generator => "generator"
  | .cha => "cha"
  | .internalCalls => "internalCalls"
  | .externalCalls => "externalCalls"

/-- What is wrong in a part of a document. -/
inductive Problem where
  /-- There is no file, or its contents are no JSON; the reason. -/
  | unreadable (reason : String)
  /-- The contents do not follow the schema, with what the schema says of them. -/
  | schema (defects : List Schema.Defect) (reason : String)
  /-- A name that documents do not carry. -/
  | unexpected (expected actual : String)
  | uri (defect : Uri.Defect)
  /-- A method number that is not made of digits. -/
  | notANumber (text : String)
  /-- A method number that another method has. -/
  | duplicateNumber (number : Nat)
  | foreignMethod (method : String)
  /-- A call from or to a number that no method has. -/
  | unknownNumber (number : Int)
  /-- A caller that is not the number of a method. -/
  | unknownCaller (text : String)
  /-- A count that is not a number above zero. -/
  | invalidCount (count kind : String)
deriving DecidableEq, Repr

def Problem.message : Problem → String
  | .unreadable reason => "Invalid JSON: " ++ reason ++ "."
  | .schema _ reason => "Schema validation failed: " ++ reason ++ "."
  | .unexpected expected actual =>
    "Expected " ++ Text.quoted expected ++ ", got " ++ Text.quoted actual ++ "."
  | .uri defect => defect.message
  | .notANumber text => "Method ID is not a non-negative integer: " ++ Text.quoted text ++ "."
  | .duplicateNumber number => "Duplicate method ID " ++ number.repr ++ "."
  | .foreignMethod method => "Method " ++ method ++ " is not declared by this type."
  | .unknownNumber number => "Unknown method ID " ++ number.repr ++ "."
  | .unknownCaller text => "Unknown caller ID " ++ Text.quoted text ++ "."
  | .invalidCount count kind => "Invalid count " ++ Text.quoted count ++ " for " ++ kind ++ "."

/-- A problem and where it is: in a part of the document, and there under a key. -/
structure Finding where
  part : Section
  key : Option String
  problem : Problem
deriving DecidableEq, Repr

/-- The place of a finding in the file at a path. -/
def Finding.location (finding : Finding) (path : String) : String :=
  match finding.key with
  | none => path ++ ":" ++ finding.part.name
  | some key => path ++ ":" ++ finding.part.name ++ "[" ++ key ++ "]"

/-- What validation found. -/
structure Findings where
  errors : List Finding
  warnings : List Finding
deriving DecidableEq, Repr

def Findings.ok (findings : Findings) : Bool := findings.errors.isEmpty

/-- A judgement that a text of digits may stand in the way of. -/
abbrev Judged (α : Type) := Except Text.NumeralDefect α

/-- The number of a text of digits, and nothing for any other text. -/
def numberOf? (text : String) : Judged (Option Nat) :=
  if Text.allDigits text then (Text.numeral text.toList).map some else .ok none

/-- Whether a method can be read and belongs to a type. -/
def checkMethod (type : TypeUri) (uri : String) : Option Problem :=
  match MethodUri.parse uri with
  | .error defect => some (.uri defect)
  | .ok method => if method.typeUri = type then none else some (.foreignMethod uri)

/-- Checks the methods of a type. `seen` are the numbers of the methods before; the result has
those of these methods as well. -/
def checkMethods (type : TypeUri) (seen : List Nat) :
    List (String × String) → Judged (List Nat × List Problem)
  | [] => .ok (seen, [])
  | (id, uri) :: rest => do
    match ← numberOf? id with
    | none =>
      let (seen, problems) ← checkMethods type seen rest
      return (seen, .notANumber id :: problems)
    | some number =>
      let (found, problems) ← checkMethods type (number :: seen) rest
      let repeated := if seen.contains number then [Problem.duplicateNumber number] else []
      return (found, repeated ++ (checkMethod type uri).toList ++ problems)

/-- Checks the types of a document, and yields the numbers of their methods. The methods of a
type whose URI cannot be read are not looked at. -/
def checkTypes (seen : List Nat) : List (String × TypeEntry) → Judged (List Nat × List Finding)
  | [] => .ok (seen, [])
  | (key, entry) :: rest => do
    let (seen, problems) ← match TypeUri.parse key none with
      | .error defect => pure (seen, [Problem.uri defect])
      | .ok type => checkMethods type seen entry.methods.entries
    let (seen, findings) ← checkTypes seen rest
    return (seen, problems.map (fun p => ⟨.cha, some key, p⟩) ++ findings)

def checkInternalCall (numbers : List Nat) (call : Int × Int) : List Finding :=
  ([call.1, call.2].filter fun i => !(numbers.map Int.ofNat).contains i).map fun i =>
    ⟨.internalCalls, some (call.1.repr ++ "," ++ call.2.repr), .unknownNumber i⟩

/-- Whether a text is the number of a listed method. -/
def checkCaller (numbers : List Nat) (text : String) : Judged (Option Problem) := do
  match ← numberOf? text with
  | some number => return if numbers.contains number then none else some (.unknownCaller text)
  | none => return some (.unknownCaller text)

def checkCount (count kind : String) : Judged (Option Problem) := do
  match ← numberOf? count with
  | some (_ + 1) => return none
  | _ => return some (.invalidCount count kind)

/-- The caller and the callee in the key of an external call; without a comma, all of it is the
caller. -/
def splitKey (key : String) : String × String :=
  match Text.cutFirst? ',' key.toList with
  | none => (key, "")
  | some (caller, callee) => (String.ofList caller, String.ofList callee)

/-- Checks the calls from one method to another outside the artifact. -/
def checkExternalCall (numbers : List Nat) (key : String) (counts : Table String String) :
    Judged (List Finding) := do
  let (caller, callee) := splitKey key
  let callerProblem ← checkCaller numbers caller
  let calleeProblem := match MethodUri.parse callee with
    | .error defect => some (Problem.uri defect)
    | .ok _ => none
  let countProblems ← counts.entries.mapM fun (kind, count) => checkCount count kind
  let problems := callerProblem.toList ++ calleeProblem.toList ++ countProblems.filterMap id
  return problems.map fun p => ⟨.externalCalls, some key, p⟩

/-- A warning where a name is not the one that documents carry. -/
def checkName (part : Section) (expected actual : String) : List Finding :=
  if actual = expected then [] else [⟨part, none, .unexpected expected actual⟩]

/-- Validates a document that follows the schema. -/
def validate (doc : Revision) : Judged Findings := do
  let (numbers, typeFindings) ← checkTypes [] doc.cha.entries
  let external ← doc.externalCalls.entries.mapM fun (key, counts) =>
    checkExternalCall numbers key counts
  return {
    errors := typeFindings ++ doc.internalCalls.flatMap (checkInternalCall numbers) ++ external.flatten
    warnings := checkName .forge forgeName doc.forge ++
      checkName .generator generatorName doc.generator }

/-- What validation finds where it cannot come to the document. -/
def Findings.only (problem : Problem) : Findings := ⟨[⟨.document, none, problem⟩], []⟩

/-- Validates the contents of a file, if they could be read. -/
def validateFile [Platform] (contents : Except SystemError Octets) : Judged Findings :=
  match contents with
  | .error e => .ok (.only (.unreadable e.message))
  | .ok octets =>
    match Json.ofOctets? .strict octets with
    | none => .ok (.only (.unreadable (Platform.complaint .json octets)))
    | some value =>
      match ofJson value with
      | .error defects =>
        .ok (.only (.schema defects (Platform.complaint .revision octets)))
      | .ok doc => validate doc

end CallGraph.Revision
