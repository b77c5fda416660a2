import CallGraph.Revision.Basic
import CallGraph.Schema.Container
/-!
Reading documents. Members that the schema does not know are passed over; some members have a
second name in small letters, which counts only where the first name is absent.
-/
namespace CallGraph.Revision

open Schema

/-- A range of versions. Both bounds must be there, and each may be null. -/
def readConstraint : Json → Check Constraint :=
  objectOf fun members =>
    ((required members "lowerBound" ["lower_bound"] stringOrNull).both
      (required members "upperBound" ["upper_bound"] stringOrNull)).map
      fun (lower, upper) => ⟨lower, upper⟩

/-- A list of one range of versions or more. -/
def readConstraints (value : Json) : Check { ranges : List Constraint // ranges ≠ [] } :=
  match listOf readConstraint value with
  | .error defects => .error defects
  | .ok [] => .fail .tooShort
  | .ok (range :: ranges) => .ok ⟨range :: ranges, by simp⟩

def readDependency : Json → Check Dependency :=
  objectOf fun members =>
    ((optional members "forge" [] forgeName string).both
      ((required members "product" [] string).both
        (required members "constraints" [] readConstraints))).map
      fun (forge, product, constraints) => ⟨forge, product, constraints.1, constraints.2⟩

def stringsOrNull : Json → Check (Option (List String))
  | .null => .ok none
  | value => (listOf string value).map some

def readTypeEntry : Json → Check TypeEntry :=
  objectOf fun members =>
    ((optional members "methods" [] [] (entriesOf string)).both
      ((optional members "superClasses" ["super_classes"] none stringsOrNull).both
        (optional members "superInterfaces" ["super_interfaces"] none stringsOrNull))).map
      fun (methods, superClasses, superInterfaces) =>
        ⟨Table.ofList methods, superClasses, superInterfaces⟩

/-- A call inside the artifact: a list of two integers. Of a list that is too long nothing else
is reported; in one that is too short each absent integer is. -/
def readInternalCall : Json → Check (Int × Int)
  | .array items =>
    let place (n : Nat) : Check Int := Check.under (.index n) <|
      match items[n]? with
      | some item => integer item
      | none => .fail .missing
    if 2 < items.length then .fail .tooLong else (place 0).both (place 1)
  | _ => .fail .tupleType

/-- The calls of a document. -/
structure Calls where
  internal : List (Int × Int)
  external : Table String (Table String String)

def readCalls : Json → Check Calls :=
  objectOf fun members =>
    ((optional members "internalCalls" ["internal_calls"] [] (listOf readInternalCall)).both
      (optional members "externalCalls" ["external_calls"] [] (entriesOf (entriesOf string)))).map
      fun (internal, external) =>
        ⟨internal, Table.ofList (external.map fun (key, counts) => (key, Table.ofList counts))⟩

def ofJson : Json → Check Revision :=
  objectOf fun members =>
    ((optional members "forge" [] forgeName string).both
      ((required members "product" [] string).both
        ((required members "version" [] string).both
          ((optional members "generator" [] generatorName string).both
            ((optional members "depset" [] [] (listOf (listOf readDependency))).both
              ((optional members "cha" [] [] (entriesOf readTypeEntry)).both
                ((optional members "graph" [] ⟨[], ∅⟩ readCalls).both
                  (required members "timestamp" [] integer)))))))).map
      fun (forge, product, version, generator, depset, cha, calls, timestamp) =>
        { forge, product, version, generator, depset, cha := Table.ofList cha,
          internalCalls := calls.internal, externalCalls := calls.external, timestamp }

end CallGraph.Revision
