import Mathlib.Data.List.Perm.Basic
import Mathlib.Data.List.Sort
import Mathlib.Data.Prod.Lex

/-! Lists whose order carries no meaning. A list is read item by item, freed of
repeated items and put in the order of a key; when the key tells all items
apart, the outcome depends only on which items there were. -/
namespace CallGraph.Listing

section Reading

variable {α β ε : Type} {f : α → Except ε β} {xs ys : List α} {rs : List β}

/-- A computation in two steps succeeds when both steps do. -/
theorem bind_eq_ok {x : Except ε α} {next : α → Except ε β} {b : β} :
    (x >>= next) = .ok b ↔ ∃ a, x = .ok a ∧ next a = .ok b := by
  cases x <;> simp [bind, Except.bind]

theorem toOption_eq_some_iff {x : Except ε α} {a : α} : x.toOption = some a ↔ x = .ok a := by
  cases x <;> simp [Except.toOption]

/-- A computation in two steps fails in the first one, or in the second one
after the first. -/
theorem bind_eq_error {x : Except ε α} {next : α → Except ε β} {e : ε} :
    (x >>= next) = .error e ↔ x = .error e ∨ ∃ a, x = .ok a ∧ next a = .error e := by
  cases x <;> simp [bind, Except.bind]

theorem mapError_eq_ok {ε' : Type} {g : ε → ε'} {x : Except ε α} {a : α} :
    x.mapError g = .ok a ↔ x = .ok a := by
  cases x <;> simp [Except.mapError]

theorem mapError_eq_error {ε' : Type} {g : ε → ε'} {x : Except ε α} {e : ε'} :
    x.mapError g = .error e ↔ ∃ e', x = .error e' ∧ g e' = e := by
  cases x <;> simp [Except.mapError]

/-- A list is read when each of its items is. -/
theorem mapM_eq_ok : xs.mapM f = .ok rs ↔ List.Forall₂ (fun x r => f x = .ok r) xs rs := by
  induction xs generalizing rs with
  | nil => cases rs <;> simp [pure, Except.pure]
  | cons x xs ih =>
    rw [List.mapM_cons, bind_eq_ok]
    constructor
    · rintro ⟨r, first, rest⟩
      obtain ⟨more, read, same⟩ := bind_eq_ok.1 rest
      obtain rfl := Except.ok.inj same
      exact .cons first (ih.1 read)
    · rintro (_ | ⟨first, read⟩)
      exact ⟨_, first, bind_eq_ok.2 ⟨_, ih.2 read, rfl⟩⟩

/-- Reading the same items in another order yields the same results in another
order. -/
theorem mapM_perm (perm : xs.Perm ys) (read : xs.mapM f = .ok rs) :
    ∃ rs', ys.mapM f = .ok rs' ∧ rs.Perm rs' := by
  obtain ⟨rs', related, same⟩ := List.perm_comp_forall₂ perm.symm (mapM_eq_ok.1 read)
  exact ⟨rs', mapM_eq_ok.2 related, same.symm⟩

/-- Lists whose items are read alike one by one are read alike. -/
theorem mapM_eq_of_map_eq (same : xs.map f = ys.map f) : xs.mapM f = ys.mapM f := by
  have listed : ∀ zs : List α, zs.mapM f = (zs.map f).mapM id := by
    intro zs
    rw [List.mapM_map]
    rfl
  rw [listed xs, listed ys, same]

/-- Where each translated item is read as the translation of what the item is
read as, translated items in any order are read as translated results. -/
theorem mapM_translated {α' β' : Type} {f' : α' → Except ε β'} {g : α → α'} {h : β → β'}
    {ys : List α'} (step : ∀ x r, x ∈ xs → f x = .ok r → f' (g x) = .ok (h r))
    (perm : (xs.map g).Perm ys) (read : xs.mapM f = .ok rs) :
    ∃ rs', ys.mapM f' = .ok rs' ∧ (rs.map h).Perm rs' := by
  refine mapM_perm perm (mapM_eq_ok.2 ?_)
  -- Items and results are related one by one, so their order can wait.
  have related := mapM_eq_ok.1 read
  clear read perm
  induction related with
  | nil => exact .nil
  | cons first _ ih =>
    exact .cons (step _ _ List.mem_cons_self first)
      (ih fun x r mem => step x r (List.mem_cons_of_mem _ mem))

/-- The results are what the items are read as. -/
theorem mem_mapM (read : xs.mapM f = .ok rs) {r : β} : r ∈ rs ↔ ∃ x ∈ xs, f x = .ok r := by
  have related := mapM_eq_ok.1 read
  clear read
  induction related with
  | nil => simp
  | cons first _ ih =>
    simp only [List.mem_cons, exists_eq_or_imp, ih, first, Except.ok.injEq]
    exact or_congr_left eq_comm

/-- Each item has its partner in the list of partners. -/
theorem exists_of_forall₂ {r : α → β → Prop} {ys : List β} (related : List.Forall₂ r xs ys) {x : α}
    (mem : x ∈ xs) : ∃ y ∈ ys, r x y := by
  induction related with
  | nil => cases mem
  | cons first _ ih =>
    rcases List.mem_cons.1 mem with rfl | later
    · exact ⟨_, List.mem_cons_self, first⟩
    · obtain ⟨y, mem, here⟩ := ih later
      exact ⟨y, List.mem_cons_of_mem _ mem, here⟩

theorem exists_mapM (read : xs.mapM f = .ok rs) {x : α} (mem : x ∈ xs) :
    ∃ r ∈ rs, f x = .ok r :=
  exists_of_forall₂ (mapM_eq_ok.1 read) mem

/-- Items that each have a partner have a list of partners. -/
theorem exists_forall₂ {r : α → β → Prop} (each : ∀ x ∈ xs, ∃ y, r x y) :
    ∃ ys, List.Forall₂ r xs ys := by
  induction xs with
  | nil => exact ⟨[], .nil⟩
  | cons x rest ih =>
    obtain ⟨y, first⟩ := each x List.mem_cons_self
    obtain ⟨ys, later⟩ := ih fun z mem => each z (List.mem_cons_of_mem x mem)
    exact ⟨y :: ys, .cons first later⟩

/-- A list of items that can all be read can be read. -/
theorem mapM_ok (each : ∀ x ∈ xs, ∃ r, f x = .ok r) : ∃ rs, xs.mapM f = .ok rs := by
  obtain ⟨rs, related⟩ := exists_forall₂ each
  exact ⟨rs, mapM_eq_ok.2 related⟩

/-- Reading a list fails as reading one of its items does. -/
theorem exists_of_mapM_error {e : ε} (failed : xs.mapM f = .error e) :
    ∃ x ∈ xs, f x = .error e := by
  induction xs with
  | nil => cases failed
  | cons x xs ih =>
    rw [List.mapM_cons] at failed
    rcases bind_eq_error.1 failed with first | ⟨r, -, rest⟩
    · exact ⟨x, List.mem_cons_self, first⟩
    · rcases bind_eq_error.1 rest with later | ⟨rs, -, done⟩
      · obtain ⟨y, mem, failed⟩ := ih later
        exact ⟨y, List.mem_cons_of_mem x mem, failed⟩
      · cases done

/-- Where items can fail for one reason only, a list fails when one of its items
does. -/
theorem mapM_eq_error_iff {e : ε} (only : ∀ x e', f x = .error e' → e' = e) :
    xs.mapM f = .error e ↔ ∃ x ∈ xs, f x = .error e := by
  constructor
  · exact exists_of_mapM_error
  · rintro ⟨x, mem, failed⟩
    cases done : xs.mapM f with
    | error e' =>
      obtain ⟨y, -, failed'⟩ := exists_of_mapM_error done
      rw [only y e' failed']
    | ok rs =>
      obtain ⟨r, -, read⟩ := exists_mapM done mem
      cases failed.symm.trans read

/-- What each result shows of its item, the results show of the items. -/
theorem map_mapM {γ : Type} {shown : β → γ} {held : α → γ} (read : xs.mapM f = .ok rs)
    (shows : ∀ x r, x ∈ xs → f x = .ok r → shown r = held x) : rs.map shown = xs.map held := by
  have related := mapM_eq_ok.1 read
  clear read
  induction related with
  | nil => rfl
  | cons first _ ih =>
    rw [List.map_cons, List.map_cons, shows _ _ List.mem_cons_self first,
      ih fun x r mem => shows x r (List.mem_cons_of_mem _ mem)]

/-- As many results as items are of a sort that a result shows of its item. -/
theorem countP_mapM {p : α → Bool} {q : β → Bool} (read : xs.mapM f = .ok rs)
    (shows : ∀ x r, x ∈ xs → f x = .ok r → q r = p x) : xs.countP p = rs.countP q := by
  have same := congrArg (List.countP fun b => b) (map_mapM read shows)
  rw [List.countP_map, List.countP_map] at same
  exact same.symm

/-- What every step keeps, a whole run keeps. -/
theorem foldlM_keeps {σ : Type} {step : σ → α → Except ε σ} {p : σ → Prop}
    (keeps : ∀ s x s', x ∈ xs → step s x = .ok s' → p s → p s') {s s' : σ}
    (ran : xs.foldlM step s = .ok s') (before : p s) : p s' := by
  induction xs generalizing s with
  | nil =>
    obtain rfl := Except.ok.inj ran
    exact before
  | cons x rest ih =>
    rw [List.foldlM_cons] at ran
    obtain ⟨middle, first, later⟩ := bind_eq_ok.1 ran
    exact ih (fun s y s' mem => keeps s y s' (List.mem_cons_of_mem x mem)) later
      (keeps s x middle List.mem_cons_self first before)

/-- The same of runs that fail without saying why. -/
theorem foldlM_option_keeps {σ : Type} {step : σ → α → Option σ} {p : σ → Prop}
    (keeps : ∀ s x s', x ∈ xs → step s x = some s' → p s → p s') {s s' : σ}
    (ran : xs.foldlM step s = some s') (before : p s) : p s' := by
  induction xs generalizing s with
  | nil =>
    obtain rfl := Option.some.inj ran
    exact before
  | cons x rest ih =>
    rw [List.foldlM_cons] at ran
    obtain ⟨middle, first, later⟩ := Option.bind_eq_some_iff.1 ran
    exact ih (fun s y s' mem => keeps s y s' (List.mem_cons_of_mem x mem)) later
      (keeps s x middle List.mem_cons_self first before)

/-- A run fails as one of its steps does, from a state that has what every step
keeps. -/
theorem exists_of_foldlM_error {σ : Type} {step : σ → α → Except ε σ} {p : σ → Prop}
    (keeps : ∀ s x s', x ∈ xs → step s x = .ok s' → p s → p s') {s : σ} {e : ε}
    (failed : xs.foldlM step s = .error e) (before : p s) :
    ∃ x ∈ xs, ∃ middle, p middle ∧ step middle x = .error e := by
  induction xs generalizing s with
  | nil => cases failed
  | cons x rest ih =>
    rw [List.foldlM_cons] at failed
    rcases bind_eq_error.1 failed with here | ⟨next, first, later⟩
    · exact ⟨x, List.mem_cons_self, s, before, here⟩
    · obtain ⟨y, mem, there⟩ := ih (fun s y s' mem => keeps s y s' (List.mem_cons_of_mem x mem))
        later (keeps s x next List.mem_cons_self first before)
      exact ⟨y, List.mem_cons_of_mem x mem, there⟩

/-- A run that succeeds makes every step, each from a state that has what every
step keeps. -/
theorem exists_foldlM_step {σ : Type} {step : σ → α → Except ε σ} {p : σ → Prop}
    (keeps : ∀ s x s', x ∈ xs → step s x = .ok s' → p s → p s') {s s' : σ}
    (ran : xs.foldlM step s = .ok s') (before : p s) {x : α} (mem : x ∈ xs) :
    ∃ middle next, p middle ∧ step middle x = .ok next := by
  induction xs generalizing s with
  | nil => cases mem
  | cons y rest ih =>
    rw [List.foldlM_cons] at ran
    obtain ⟨next, first, later⟩ := bind_eq_ok.1 ran
    rcases List.mem_cons.1 mem with rfl | mem
    · exact ⟨s, next, before, first⟩
    · exact ih (fun s z s' mem => keeps s z s' (List.mem_cons_of_mem y mem)) later
        (keeps s y next List.mem_cons_self first before) mem

/-- A view that each step overwrites, or leaves, shows after a run what was
written last. -/
theorem foldlM_shows_last {σ ι : Type} {step : σ → α → Except ε σ} {p : σ → Prop}
    (view : σ → Option ι) (write : α → Option ι)
    (steps : ∀ s x s', step s x = .ok s' → p s → p s' ∧ view s' = (write x).or (view s))
    {s s' : σ} (ran : xs.foldlM step s = .ok s') (before : p s) :
    view s' = (xs.filterMap write).getLast?.or (view s) := by
  induction xs generalizing s with
  | nil =>
    obtain rfl := Except.ok.inj ran
    rfl
  | cons x rest ih =>
    rw [List.foldlM_cons] at ran
    obtain ⟨middle, first, later⟩ := bind_eq_ok.1 ran
    obtain ⟨kept, shown⟩ := steps s x middle first before
    rw [ih later kept, shown]
    cases written : write x with
    | none => rw [List.filterMap_cons_none written, Option.none_or]
    | some value =>
      rw [List.filterMap_cons_some written, List.getLast?_cons]
      cases (rest.filterMap write).getLast? <;> rfl

end Reading

/-- Where all items are the same, it does not matter which one is the last. -/
theorem getLast?_perm {α : Type} {xs ys : List α} (perm : xs.Perm ys)
    (agree : ∀ a ∈ xs, ∀ b ∈ xs, a = b) : ys.getLast? = xs.getLast? := by
  cases last : ys.getLast? with
  | none =>
    obtain rfl := List.getLast?_eq_none_iff.1 last
    rw [perm.eq_nil]
    rfl
  | some b =>
    have mem := perm.mem_iff.2 (List.mem_of_getLast? last)
    cases last' : xs.getLast? with
    | none =>
      obtain rfl := List.getLast?_eq_none_iff.1 last'
      cases mem
    | some a => rw [agree a (List.mem_of_getLast? last') b mem]

/-- Items that are each of exactly one of three sorts are counted by sort. -/
theorem length_eq_countP {α : Type} {p q r : α → Bool} {xs : List α}
    (sorted : ∀ x ∈ xs, (p x).toNat + (q x).toNat + (r x).toNat = 1) :
    xs.length = xs.countP p + xs.countP q + xs.countP r := by
  induction xs with
  | nil => rfl
  | cons x rest ih =>
    have first := sorted x List.mem_cons_self
    have later := ih fun y mem => sorted y (List.mem_cons_of_mem x mem)
    simp only [List.length_cons, List.countP_cons, Bool.toNat, Bool.cond_eq_ite] at first ⊢
    omega

section Distinct

variable {α : Type} [BEq α] [LawfulBEq α]

theorem nodup_eraseDups (xs : List α) : xs.eraseDups.Nodup := by
  match xs with
  | [] => simp
  | x :: rest =>
    have shorter : (rest.filter fun b => !b == x).length < rest.length + 1 :=
      Nat.lt_succ_of_le (List.length_filter_le _ _)
    rw [List.eraseDups_cons, List.nodup_cons]
    exact ⟨by simp, nodup_eraseDups _⟩
termination_by xs.length

theorem eraseDups_perm {xs ys : List α} (same : ∀ a, a ∈ xs ↔ a ∈ ys) :
    xs.eraseDups.Perm ys.eraseDups :=
  (List.perm_ext_iff_of_nodup (nodup_eraseDups xs) (nodup_eraseDups ys)).2 (by simp [same])

/-- In a list without repeated items, an item is found at its only place. -/
theorem idxOf?_eq_some_iff {xs : List α} (distinct : xs.Nodup) {a : α} {i : Nat} :
    xs.idxOf? a = some i ↔ xs[i]? = some a := by
  rw [List.idxOf?_eq_some_iff, List.getElem?_eq_some_iff]
  constructor
  · rintro ⟨inside, here, -⟩
    exact ⟨inside, here⟩
  · rintro ⟨inside, here⟩
    refine ⟨inside, here, fun j before there => ?_⟩
    have same := distinct.getElem_inj_iff.1 (there.trans here.symm)
    omega

end Distinct

section Collected

variable {α β : Type}

/-- A list with one more item at its end, unless the item is there already or
there is none to add. -/
def withNew [DecidableEq β] (xs : List β) : Option β → List β
  | some b => if b ∈ xs then xs else xs ++ [b]
  | none => xs

variable [DecidableEq β] [BEq β] [LawfulBEq β]

theorem eraseDups_concat (xs : List β) (b : β) :
    (xs ++ [b]).eraseDups = withNew xs.eraseDups (some b) := by
  rw [List.eraseDups_append]
  by_cases known : b ∈ xs
  · simp [withNew, List.removeAll, known]
  · simp [withNew, List.removeAll, known, List.eraseDups_cons]

/-- What is collected from one more item is new at the end, if it is new. -/
theorem eraseDups_filterMap_concat (f : α → Option β) (xs : List α) (a : α) :
    ((xs ++ [a]).filterMap f).eraseDups = withNew (xs.filterMap f).eraseDups (f a) := by
  rw [List.filterMap_append]
  cases item : f a with
  | none => simp [item, withNew]
  | some b =>
    rw [List.filterMap_cons_some item, List.filterMap_nil]
    exact eraseDups_concat _ b

end Collected

/-- Of a row of numbers that is cut into pieces, each piece is a row. -/
theorem exists_piece_of_row {α : Type} {f : Nat → α} {pieces : List (List α)} {first n : Nat}
    (row : pieces.flatten = (List.range' first n).map f) {piece : List α} (mem : piece ∈ pieces) :
    ∃ start, piece = (List.range' start piece.length).map f := by
  obtain ⟨front, back, rfl⟩ := List.append_of_mem mem
  rw [List.flatten_append, List.flatten_cons] at row
  obtain ⟨_, later, cut, -, rest⟩ := List.map_eq_append_iff.1 row.symm
  obtain ⟨k, -, -, rfl⟩ := List.range'_eq_append_iff.1 cut
  obtain ⟨here, _, cut, rfl, -⟩ := List.map_eq_append_iff.1 rest
  obtain ⟨size, -, rfl, -⟩ := List.range'_eq_append_iff.1 cut
  exact ⟨first + k, by simp⟩

section Sorted

variable {α κ : Type} [LinearOrder κ] {le : α → α → Bool} {key : α → κ} {xs ys : List α}

theorem trans_of_key (byKey : ∀ a b, le a b = true ↔ key a ≤ key b) (a b c : α)
    (ab : le a b = true) (bc : le b c = true) : le a c = true :=
  (byKey a c).2 (le_trans ((byKey a b).1 ab) ((byKey b c).1 bc))

theorem total_of_key (byKey : ∀ a b, le a b = true ↔ key a ≤ key b) (a b : α) :
    (le a b || le b a) = true := by
  rw [Bool.or_eq_true, byKey, byKey]
  exact le_total _ _

theorem pairwise_mergeSort_key (byKey : ∀ a b, le a b = true ↔ key a ≤ key b) (xs : List α) :
    (xs.mergeSort le).Pairwise fun a b => key a ≤ key b := by
  have sorted : (xs.mergeSort le).Pairwise fun a b => le a b = true :=
    List.pairwise_mergeSort (trans_of_key byKey) (total_of_key byKey) xs
  exact sorted.imp fun le => (byKey _ _).1 le

/-- Sorting leaves items that share a key in their order. -/
theorem filter_mergeSort (byKey : ∀ a b, le a b = true ↔ key a ≤ key b) (k : κ) (xs : List α) :
    (xs.mergeSort le).filter (fun a => key a = k) = xs.filter fun a => key a = k := by
  have tied : (xs.filter fun a => key a = k).Pairwise fun a b => le a b = true := by
    refine List.pairwise_of_forall_mem_list fun a aMem b bMem => (byKey a b).2 ?_
    have aKey := of_decide_eq_true (List.mem_filter.1 aMem).2
    have bKey := of_decide_eq_true (List.mem_filter.1 bMem).2
    exact (aKey.trans bKey.symm).le
  have kept := (List.sublist_mergeSort (trans_of_key byKey) (total_of_key byKey) tied
    List.filter_sublist).filter fun a => key a = k
  simp only [List.filter_filter, Bool.and_self] at kept
  -- A sorted list has as many items with the key as the list had before.
  exact (kept.eq_of_length ((List.mergeSort_perm xs le).filter _).length_eq.symm).symm

/-- What holds of items in their order holds, after sorting, of those that share a
key. -/
theorem pairwise_mergeSort_ties {r : α → α → Prop}
    (byKey : ∀ a b, le a b = true ↔ key a ≤ key b) (ordered : xs.Pairwise r) :
    (xs.mergeSort le).Pairwise fun a b => key a < key b ∨ key a = key b ∧ r a b := by
  refine List.pairwise_of_forall_sublist fun {a b} listed => ?_
  have sorted := List.pairwise_iff_forall_sublist.1 (pairwise_mergeSort_key byKey xs) listed
  refine (lt_or_eq_of_le sorted).imp_right fun tie => ⟨tie, ?_⟩
  have both : [a, b].filter (fun c => key c = key b) = [a, b] := by simp [tie]
  have listed := listed.filter fun c => key c = key b
  rw [filter_mergeSort byKey, both] at listed
  exact List.pairwise_iff_forall_sublist.1 ordered (listed.trans List.filter_sublist)

/-- Lists with the same items in any order are sorted alike. -/
theorem mergeSort_perm_eq (byKey : ∀ a b, le a b = true ↔ key a ≤ key b)
    (injective : Function.Injective key) (perm : xs.Perm ys) : xs.mergeSort le = ys.mergeSort le := by
  refine List.Perm.eq_of_pairwise (fun a b _ _ ab ba => injective (le_antisymm ab ba))
    (pairwise_mergeSort_key byKey xs) (pairwise_mergeSort_key byKey ys) ?_
  exact (List.mergeSort_perm xs le).trans (perm.trans (List.mergeSort_perm ys le).symm)

/-- Without repeated items, a sorted list increases at every step. -/
theorem pairwise_mergeSort_lt [BEq α] [LawfulBEq α] (byKey : ∀ a b, le a b = true ↔ key a ≤ key b)
    (injective : Function.Injective key) (xs : List α) :
    (xs.eraseDups.mergeSort le).Pairwise fun a b => key a < key b := by
  have distinct : (xs.eraseDups.mergeSort le).Nodup :=
    List.nodup_mergeSort.2 (nodup_eraseDups xs)
  refine ((pairwise_mergeSort_key byKey _).and distinct).imp ?_
  rintro a b ⟨le, ne⟩
  exact lt_of_le_of_ne le fun same => ne (injective same)

end Sorted

end CallGraph.Listing
