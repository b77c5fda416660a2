import CallGraph.Schema.Scalar
/-!
Lists and objects in a schema. An object with fixed members is checked member by member; whether
further members are allowed is for the schema of the object to say. Of a repeated member the last
one counts.
-/
namespace CallGraph.Schema

variable {α : Type}

def listOf (item : Json → Check α) : Json → Check (List α)
  | .array items => Check.eachFrom item 0 items
  | _ => .fail .listType

/-- An object with any names: its members, each value checked under its name. -/
def entriesOf (value : Json → Check α) : Json → Check (List (String × α))
  | .object members =>
    Check.each (fun (name, v) => ((value v).under (.key name)).map fun a => (name, a)) members
  | _ => .fail .dictType

def objectOf (model : List (String × Json) → Check α) : Json → Check α
  | .object members => model members
  | _ => .fail .modelType

/-- The member with the first of the names that is there. -/
def find? (members : List (String × Json)) : List String → Option Json
  | [] => none
  | name :: names =>
    match Json.member? name members with
    | some value => some value
    | none => find? members names

/-- A member that must be there, under the first of its names that is. Defects are reported under
the first name. -/
def required (members : List (String × Json)) (name : String) (otherNames : List String)
    (value : Json → Check α) : Check α :=
  Check.under (.key name) <|
    match find? members (name :: otherNames) with
    | some v => value v
    | none => .fail .missing

/-- A member that may be there, under the first of its names that is. -/
def optional (members : List (String × Json)) (name : String) (otherNames : List String)
    (absent : α) (value : Json → Check α) : Check α :=
  Check.under (.key name) <|
    match find? members (name :: otherNames) with
    | some v => value v
    | none => .ok absent

/-- No members but those with the given names. -/
def onlyMembers {ν : Type} (names : List String) (members : List (String × ν)) : Check Unit :=
  (Check.each (fun (m : String × ν) =>
    if names.contains m.1 then (.ok () : Check Unit)
    else Check.under (.key m.1) (.fail .extraForbidden)) members).map fun _ => ()

end CallGraph.Schema
