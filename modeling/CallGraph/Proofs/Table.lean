import CallGraph.Table

/-! Tables as functions and as lists. Looking a key up and finding it among the
entries are the same, and a list without repeated keys is entered as it
stands. -/
namespace CallGraph.Table

variable {κ ν μ : Type} [DecidableEq κ] {entries : List (κ × ν)} {key k : κ} {v : ν}

theorem lookup_eq_some_iff (distinct : (entries.map Prod.fst).Nodup) :
    lookup k entries = some v ↔ (k, v) ∈ entries := by
  induction entries with
  | nil => simp [lookup]
  | cons e rest ih =>
    simp only [List.map_cons, List.nodup_cons] at distinct
    by_cases same : e.1 = k
    · subst same
      have notLater : (e.1, v) ∉ rest := fun mem =>
        distinct.1 (List.mem_map.2 ⟨_, mem, rfl⟩)
      simp only [lookup, if_true, Option.some.injEq, List.mem_cons, notLater, or_false]
      exact ⟨fun equal => by rw [← equal], fun equal => by rw [← equal]⟩
    · have notFirst : (k, v) ≠ e := fun equal => same (by rw [← equal])
      simp [lookup, same, ih distinct.2, notFirst]

/-- A key is looked up as the value it is entered with. -/
theorem get?_eq_some_iff {t : Table κ ν} : t.get? k = some v ↔ (k, v) ∈ t.entries :=
  lookup_eq_some_iff t.nodup

/-- Entries before those of a key stay as they are. -/
theorem updateEntries_append {f : Option ν → ν} (absent : key ∉ entries.map Prod.fst)
    (rest : List (κ × ν)) :
    updateEntries key f (entries ++ rest) = entries ++ updateEntries key f rest := by
  induction entries with
  | nil => rfl
  | cons e more ih =>
    simp only [List.map_cons, List.mem_cons, not_or] at absent
    simp [updateEntries, Ne.symm absent.1, ih absent.2]

theorem updateEntries_new {f : Option ν → ν} (new : key ∉ entries.map Prod.fst) :
    updateEntries key f entries = entries ++ [(key, f none)] := by
  simpa [updateEntries] using updateEntries_append new []

/-- A new key goes to the end; a known one keeps its place. -/
theorem keys_updateEntries (key : κ) (f : Option ν → ν) (entries : List (κ × ν)) :
    (updateEntries key f entries).map Prod.fst =
      if key ∈ entries.map Prod.fst then entries.map Prod.fst
      else entries.map Prod.fst ++ [key] := by
  induction entries with
  | nil => simp [updateEntries]
  | cons e rest ih =>
    by_cases same : e.1 = key
    · simp [updateEntries, same]
    · rw [updateEntries, if_neg same, List.map_cons, ih, List.map_cons]
      by_cases later : key ∈ rest.map Prod.fst
      · rw [if_pos later, if_pos (List.mem_cons_of_mem _ later)]
      · have new : key ∉ e.1 :: rest.map Prod.fst := by simp [later, Ne.symm same]
        rw [if_neg later, if_neg new, List.cons_append]

theorem keys_update (t : Table κ ν) (key : κ) (f : Option ν → ν) :
    (t.update key f).keys = if key ∈ t.keys then t.keys else t.keys ++ [key] :=
  keys_updateEntries key f t.entries

/-- An update of a known key does not show in a view that no value loses. -/
theorem map_updateEntries (view : ν → μ) {f : Option ν → ν} (known : key ∈ entries.map Prod.fst)
    (keeps : ∀ v, view (f (some v)) = view v) :
    (updateEntries key f entries).map (fun e => (e.1, view e.2)) =
      entries.map fun e => (e.1, view e.2) := by
  induction entries with
  | nil => cases known
  | cons e rest ih =>
    by_cases same : e.1 = key
    · simp [updateEntries, same, keeps]
    · have later : key ∈ rest.map Prod.fst := (List.mem_cons.1 known).resolve_left (Ne.symm same)
      rw [updateEntries, if_neg same, List.map_cons, ih later, List.map_cons]

theorem contains_iff {t : Table κ ν} : t.contains k = true ↔ k ∈ t.keys := by
  rw [contains, Option.isSome_iff_exists, keys, List.mem_map]
  constructor
  · rintro ⟨v, found⟩
    exact ⟨(k, v), get?_eq_some_iff.1 found, rfl⟩
  · rintro ⟨⟨k, v⟩, mem, rfl⟩
    exact ⟨v, get?_eq_some_iff.2 mem⟩

/-- Entering keys that are all new and distinct keeps every entry in its
place. -/
theorem entries_insertAll (t : Table κ ν)
    (distinct : ((t.entries ++ entries).map Prod.fst).Nodup) :
    (entries.foldl (fun t e => t.insert e.1 e.2) t).entries = t.entries ++ entries := by
  induction entries generalizing t with
  | nil => simp
  | cons e rest ih =>
    have new : e.1 ∉ t.entries.map Prod.fst := by
      rw [List.map_append, List.nodup_append] at distinct
      exact fun mem => distinct.2.2 _ mem _ (by simp) rfl
    have inserted : (t.insert e.1 e.2).entries = t.entries ++ [e] := updateEntries_new new
    rw [List.foldl_cons, ih _ (by rwa [inserted, List.append_assoc]), inserted, List.append_assoc,
      List.singleton_append]

theorem entries_ofList (distinct : (entries.map Prod.fst).Nodup) :
    (ofList entries).entries = entries := by
  simpa [ofList] using entries_insertAll (∅ : Table κ ν) (by simpa using distinct)

omit [DecidableEq κ] in
/-- Entries under other keys that tell the old ones apart keep their places. -/
theorem entries_ofList_renamed {κ' ν' : Type} [DecidableEq κ'] (t : Table κ ν) {name : κ → κ'}
    (injective : Function.Injective name) (value : ν → ν') :
    (ofList (t.entries.map fun e => (name e.1, value e.2))).entries =
      t.entries.map fun e => (name e.1, value e.2) := by
  refine entries_ofList ?_
  rw [List.map_map]
  have renamed : ((t.entries.map Prod.fst).map name).Nodup :=
    List.pairwise_map.2 (t.nodup.imp fun apart same => apart (injective same))
  rwa [List.map_map] at renamed

theorem get?_insertAll_eq_some_iff {t : Table κ ν} :
    (entries.foldl (fun t e => t.insert e.1 e.2) t).get? k = some v ↔
      (∃ before after, entries = before ++ (k, v) :: after ∧ k ∉ after.map Prod.fst) ∨
        k ∉ entries.map Prod.fst ∧ t.get? k = some v := by
  induction entries generalizing t with
  | nil => simp
  | cons e rest ih =>
    rw [List.foldl_cons, ih, get?_insert]
    constructor
    · rintro (⟨before, after, rfl, absent⟩ | ⟨absent, held⟩)
      · exact .inl ⟨e :: before, after, rfl, absent⟩
      · by_cases here : k = e.1
        · rw [if_pos here] at held
          obtain rfl := Option.some.inj held
          exact .inl ⟨[], rest, by rw [here]; rfl, absent⟩
        · rw [if_neg here] at held
          exact .inr ⟨by simp [here, absent], held⟩
    · rintro (⟨before, after, split, absent⟩ | ⟨absent, held⟩)
      · cases before with
        | nil =>
          obtain ⟨rfl, rfl⟩ := List.cons.inj split
          exact .inr ⟨absent, if_pos rfl⟩
        | cons first before =>
          obtain ⟨-, rfl⟩ := List.cons.inj split
          exact .inl ⟨before, after, rfl, absent⟩
      · rw [List.map_cons, List.mem_cons, not_or] at absent
        exact .inr ⟨absent.2, by rw [if_neg absent.1, held]⟩

/-- Of several values entered for one key, the last one stays. -/
theorem get?_ofList_eq_some_iff : (ofList entries).get? k = some v ↔
    ∃ before after, entries = before ++ (k, v) :: after ∧ k ∉ after.map Prod.fst := by
  rw [ofList, get?_insertAll_eq_some_iff]
  simp

theorem ofList_entries (t : Table κ ν) : ofList t.entries = t := by
  have same := entries_ofList t.nodup
  cases t with
  | mk entries nodup =>
    cases rebuilt : ofList entries with
    | mk entries' _ =>
      rw [rebuilt] at same
      cases same
      rfl

theorem eq_of_entries {s t : Table κ ν} (same : s.entries = t.entries) : s = t := by
  rw [← ofList_entries s, same, ofList_entries]

/-- What the values of a table weigh in all. -/
def weight (w : ν → Nat) (t : Table κ ν) : Nat :=
  t.entries.foldr (fun e total => w e.2 + total) 0

/-- Where an update makes the value of a key, or its absence, one heavier, it
makes the table one heavier. -/
theorem weight_update {w : ν → Nat} {f : Option ν → ν}
    (grows : ∀ v, w (f v) = v.elim 0 w + 1) (t : Table κ ν) :
    (t.update key f).weight w = t.weight w + 1 := by
  simp only [weight, update]
  induction t.entries with
  | nil => simp [updateEntries, grows]
  | cons e rest ih =>
    by_cases same : e.1 = key
    · simp only [updateEntries, same, if_true, List.foldr_cons, grows, Option.elim]
      omega
    · simp only [updateEntries, same, if_false, List.foldr_cons, ih]
      omega

end CallGraph.Table
