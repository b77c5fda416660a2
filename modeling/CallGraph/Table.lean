/-!
Tables in order of insertion. A table maps each of its keys to one value and keeps the keys in
the order in which they were first entered; entering a key again changes its value and not its
place. Documents and accumulators show this order.
-/
namespace CallGraph

/-- A map whose keys stand in the order in which they were entered. -/
structure Table (κ ν : Type) where
  /-- The keys with their values, in order of entry. -/
  entries : List (κ × ν)
  nodup : (entries.map Prod.fst).Nodup

namespace Table

variable {κ ν μ : Type}

instance [DecidableEq κ] [DecidableEq ν] : DecidableEq (Table κ ν) := fun a b =>
  if h : a.entries = b.entries then
    isTrue (by cases a; cases b; simp_all)
  else isFalse (by intro e; exact h (by rw [e]))

instance : EmptyCollection (Table κ ν) := ⟨⟨[], by simp⟩⟩

instance : Inhabited (Table κ ν) := ⟨∅⟩

def keys (t : Table κ ν) : List κ := t.entries.map Prod.fst

def isEmpty (t : Table κ ν) : Bool := t.entries.isEmpty

def size (t : Table κ ν) : Nat := t.entries.length

/-- The value of a key in a list of entries. -/
def lookup [DecidableEq κ] (key : κ) : List (κ × ν) → Option ν
  | [] => none
  | (k, v) :: rest => if k = key then some v else lookup key rest

def get? [DecidableEq κ] (t : Table κ ν) (key : κ) : Option ν := lookup key t.entries

def contains [DecidableEq κ] (t : Table κ ν) (key : κ) : Bool := (t.get? key).isSome

/-- Gives a key a value computed from the one it had, in its place or at the end. -/
def updateEntries [DecidableEq κ] (key : κ) (f : Option ν → ν) : List (κ × ν) → List (κ × ν)
  | [] => [(key, f none)]
  | (k, v) :: rest => if k = key then (k, f (some v)) :: rest else (k, v) :: updateEntries key f rest

theorem mem_keys_updateEntries [DecidableEq κ] {key k : κ} {f : Option ν → ν}
    {entries : List (κ × ν)} :
    k ∈ (updateEntries key f entries).map Prod.fst ↔ k = key ∨ k ∈ entries.map Prod.fst := by
  induction entries with
  | nil => simp [updateEntries]
  | cons e rest ih =>
    by_cases he : e.1 = key
    · simp [updateEntries, he]
    · simp only [updateEntries, he, if_false, List.map_cons, List.mem_cons, ih]
      constructor
      · rintro (h | h | h) <;> simp [h]
      · rintro (h | h | h) <;> simp [h]

theorem nodup_updateEntries [DecidableEq κ] {key : κ} {f : Option ν → ν}
    {entries : List (κ × ν)} (h : (entries.map Prod.fst).Nodup) :
    ((updateEntries key f entries).map Prod.fst).Nodup := by
  induction entries with
  | nil => simp [updateEntries]
  | cons e rest ih =>
    simp only [List.map_cons, List.nodup_cons] at h
    by_cases he : e.1 = key
    · simp only [updateEntries, he, if_true, List.map_cons, List.nodup_cons]
      exact ⟨he ▸ h.1, h.2⟩
    · simp only [updateEntries, he, if_false, List.map_cons, List.nodup_cons]
      exact ⟨fun hm => (mem_keys_updateEntries.1 hm).elim he h.1, ih h.2⟩

/-- Gives a key a value computed from the one it had, in its place or at the end. -/
def update [DecidableEq κ] (t : Table κ ν) (key : κ) (f : Option ν → ν) : Table κ ν :=
  ⟨updateEntries key f t.entries, nodup_updateEntries t.nodup⟩

def insert [DecidableEq κ] (t : Table κ ν) (key : κ) (value : ν) : Table κ ν :=
  t.update key fun _ => value

/-- Enters keys with values, one after the other. -/
def ofList [DecidableEq κ] (entries : List (κ × ν)) : Table κ ν :=
  entries.foldl (fun t e => t.insert e.1 e.2) ∅

def erase [DecidableEq κ] (t : Table κ ν) (key : κ) : Table κ ν :=
  ⟨t.entries.filter fun e => e.1 ≠ key, by
    exact (List.Sublist.map Prod.fst List.filter_sublist).nodup t.nodup⟩

def mapValues (f : ν → μ) (t : Table κ ν) : Table κ μ :=
  ⟨t.entries.map fun e => (e.1, f e.2), by
    simpa [List.map_map, Function.comp_def] using t.nodup⟩

@[simp] theorem entries_empty : (∅ : Table κ ν).entries = [] := rfl

@[simp] theorem get?_empty [DecidableEq κ] (key : κ) : (∅ : Table κ ν).get? key = none := rfl

theorem lookup_updateEntries [DecidableEq κ] (key k : κ) (f : Option ν → ν)
    (entries : List (κ × ν)) :
    lookup k (updateEntries key f entries) =
      if k = key then some (f (lookup key entries)) else lookup k entries := by
  induction entries with
  | nil =>
    by_cases h : k = key
    · simp [updateEntries, lookup, h]
    · simp [updateEntries, lookup, h, Ne.symm h]
  | cons e rest ih =>
    by_cases he : e.1 = key
    · by_cases h : k = key
      · simp [updateEntries, lookup, he, h]
      · simp [updateEntries, lookup, he, h, Ne.symm h]
    · simp only [updateEntries, he, if_false, lookup, ih]
      by_cases h : k = key
      · simp [h, he]
      · simp [h]

theorem get?_update [DecidableEq κ] (t : Table κ ν) (key k : κ) (f : Option ν → ν) :
    (t.update key f).get? k = if k = key then some (f (t.get? key)) else t.get? k :=
  lookup_updateEntries key k f t.entries

theorem get?_insert [DecidableEq κ] (t : Table κ ν) (key k : κ) (value : ν) :
    (t.insert key value).get? k = if k = key then some value else t.get? k :=
  get?_update t key k _

theorem mem_keys_update [DecidableEq κ] {t : Table κ ν} {key k : κ} {f : Option ν → ν} :
    k ∈ (t.update key f).keys ↔ k = key ∨ k ∈ t.keys :=
  mem_keys_updateEntries

end Table

end CallGraph
