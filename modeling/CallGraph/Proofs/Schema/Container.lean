import CallGraph.Schema.Container
import Mathlib.Data.List.Forall2

/-! Lists and objects whose parts all pass. What the parts are read as is then
what the whole is read as, with its order; and where the whole passes, its
parts do. -/
namespace CallGraph.Schema

variable {α : Type} {read : Json → Check α} {write : α → Json}

@[simp] theorem Check.under_ok (step : Step) (a : α) : Check.under step (.ok a) = .ok a := rfl

theorem Check.under_eq_ok {step : Step} {check : Check α} {a : α} :
    Check.under step check = .ok a ↔ check = .ok a := by
  cases check with
  | ok value => exact Iff.rfl
  | error defects => constructor <;> intro passed <;> cases passed

theorem Check.map_eq_ok {β : Type} {check : Check α} {f : α → β} {b : β} :
    check.map f = .ok b ↔ ∃ a, check = .ok a ∧ f a = b := by
  cases check <;> simp [Except.map]

theorem Check.keeping_eq_ok {check : Check α} {other : Check Unit} {a : α} :
    check.keeping other = .ok a ↔ check = .ok a ∧ other = .ok () := by
  cases check <;> cases other <;> simp [Check.keeping, Check.both, Except.map]

private theorem eachFrom_length {items : List Json} {place : Nat} {values : List α}
    (passed : Check.eachFrom read place items = .ok values) : values.length = items.length := by
  induction items generalizing place values with
  | nil =>
    cases passed
    rfl
  | cons item rest ih =>
    obtain ⟨⟨value, more⟩, both, rfl⟩ := Check.map_eq_ok.1 passed
    rw [List.length_cons, List.length_cons, ih (Check.both_eq_ok.1 both).2]

theorem listOf_length {value : Json} {values : List α} (passed : listOf read value = .ok values) :
    ∃ items, value = .array items ∧ values.length = items.length := by
  cases value with
  | array items => exact ⟨items, rfl, eachFrom_length passed⟩
  | _ => cases passed

theorem mem_of_member? {name : String} {members : List (String × Json)} {value : Json}
    (found : Json.member? name members = some value) : ∃ member ∈ members, member.2 = value := by
  obtain ⟨member, here, same⟩ := Option.map_eq_some_iff.1 found
  exact ⟨member, List.mem_reverse.1 (List.mem_of_find?_eq_some here), same⟩

/-- A member that may be there is absent, or some member passes. -/
theorem optional_eq_ok {members : List (String × Json)} {name : String} {absent a : α}
    (passed : Schema.optional members name [] absent read = .ok a) :
    a = absent ∨ ∃ member ∈ members, read member.2 = .ok a := by
  have inside := Check.under_eq_ok.1 passed
  split at inside
  · next value found =>
    have named : Json.member? name members = some value := by
      simp only [find?] at found
      split at found
      · next here => rw [here, found]
      · cases found
    obtain ⟨member, mem, rfl⟩ := mem_of_member? named
    exact .inr ⟨member, mem, inside⟩
  · exact .inl (Except.ok.inj inside).symm

@[simp] theorem string_string (text : String) : string (.string text) = .ok text := rfl

@[simp] theorem integer_int (i : Int) : integer (.int i) = .ok i := rfl

private theorem eachFrom_map {items : List α} (back : ∀ a ∈ items, read (write a) = .ok a)
    (place : Nat) : Check.eachFrom read place (items.map write) = .ok items := by
  induction items generalizing place with
  | nil => rfl
  | cons a rest ih =>
    rw [List.map_cons, Check.eachFrom, back a List.mem_cons_self,
      ih fun b mem => back b (List.mem_cons_of_mem a mem)]
    rfl

/-- A list of values that are each read back is read back. -/
theorem listOf_map {items : List α} (back : ∀ a ∈ items, read (write a) = .ok a) :
    listOf read (.array (items.map write)) = .ok items :=
  eachFrom_map back 0

/-- An object with any names whose values are each read is read under the same
names. -/
theorem entriesOf_map {β : Type} {read : Json → Check β} {held : α → β} {entries : List (String × α)}
    (back : ∀ a, read (write a) = .ok (held a)) :
    entriesOf read (.object (entries.map fun entry => (entry.1, write entry.2))) =
      .ok (entries.map fun entry => (entry.1, held entry.2)) := by
  rw [entriesOf]
  induction entries with
  | nil => rfl
  | cons entry rest ih =>
    rw [List.map_cons, Check.each, ih]
    simp only [back, Check.under_ok]
    rfl

/-! What passes, told by what stands in the value. -/

section Passing

variable {members : List (String × Json)} {name : String}

/-- The object has a member with the name, and that is read as the given
value. -/
def Has (members : List (String × Json)) (name : String) (read : Json → Check α) (a : α) : Prop :=
  ∃ value, Json.member? name members = some value ∧ read value = .ok a

/-- No member has a name that is not among these. -/
def Only (names : List String) (members : List (String × Json)) : Prop :=
  ∀ member ∈ members, member.1 ∈ names

theorem find?_single : find? members [name] = Json.member? name members := by
  rw [find?]
  cases Json.member? name members <;> rfl

theorem required_eq_ok_iff {a : α} :
    required members name [] read = .ok a ↔ Has members name read a := by
  rw [required, Check.under_eq_ok, find?_single, Has]
  cases Json.member? name members <;> simp [Check.fail]

/-- A member that may be there is read, unless it is absent. -/
theorem optional_eq_ok_iff {absent a : α} :
    Schema.optional members name [] absent read = .ok a ↔
      (Json.member? name members = none ∧ a = absent) ∨ Has members name read a := by
  rw [Schema.optional, Check.under_eq_ok, find?_single, Has]
  cases Json.member? name members <;> simp [eq_comm]

theorem onlyMembers_eq_ok_iff {names : List String} :
    onlyMembers names members = .ok () ↔ Only names members := by
  rw [onlyMembers, Check.map_eq_ok, Only]
  simp only [and_true]
  induction members with
  | nil => simp [Check.each]
  | cons member rest ih =>
    rw [List.forall_mem_cons, ← ih, Check.each]
    by_cases known : member.1 ∈ names
    · cases Check.each _ rest <;> simp [known, Check.both, Except.map]
    · cases Check.each _ rest <;> simp [known, Check.both, Except.map, Check.under, Check.fail,
        Except.mapError]

theorem objectOf_eq_ok_iff {model : List (String × Json) → Check α} {value : Json} {a : α} :
    objectOf model value = .ok a ↔ ∃ members, value = .object members ∧ model members = .ok a := by
  cases value <;> simp [objectOf, Check.fail]

private theorem eachFrom_eq_ok_iff {items : List Json} {values : List α} (place : Nat) :
    Check.eachFrom read place items = .ok values ↔
      List.Forall₂ (fun item a => read item = .ok a) items values := by
  induction items generalizing place values with
  | nil => cases values <;> simp [Check.eachFrom]
  | cons item rest ih =>
    rw [Check.eachFrom, Check.map_eq_ok]
    constructor
    · rintro ⟨⟨a, more⟩, both, rfl⟩
      obtain ⟨first, later⟩ := Check.both_eq_ok.1 both
      exact .cons (Check.under_eq_ok.1 first) ((ih (place + 1)).1 later)
    · rintro (_ | ⟨first, later⟩)
      exact ⟨_, Check.both_eq_ok.2 ⟨Check.under_eq_ok.2 first, (ih (place + 1)).2 later⟩, rfl⟩

/-- A list is read item by item. -/
theorem listOf_eq_ok_iff {value : Json} {values : List α} : listOf read value = .ok values ↔
    ∃ items, value = .array items ∧ List.Forall₂ (fun item a => read item = .ok a) items values := by
  cases value with
  | array items => simp [listOf, eachFrom_eq_ok_iff]
  | _ => simp [listOf, Check.fail]

end Passing

end CallGraph.Schema
