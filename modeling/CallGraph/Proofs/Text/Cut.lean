import CallGraph.Text.Cut

/-! Cutting undoes joining. Text that was put together at a separator comes
apart at the same places, as long as the pieces that are cut off hold none. -/
namespace CallGraph.Text

variable {sep : Char} {cs before after : List Char}

theorem cutFirst?_append (free : sep ∉ before) :
    cutFirst? sep (before ++ sep :: after) = some (before, after) := by
  induction before with
  | nil => simp [cutFirst?]
  | cons c rest ih =>
    obtain ⟨different, restFree⟩ := not_or.1 (mt List.mem_cons.2 free)
    simp [cutFirst?, Ne.symm different, ih restFree]

/-- A text comes apart at its first separator in one way only. -/
theorem append_firstSep_inj {before' after' : List Char} (free : sep ∉ before)
    (free' : sep ∉ before') :
    before ++ sep :: after = before' ++ sep :: after' ↔ before = before' ∧ after = after' := by
  constructor
  · intro same
    have cut := congrArg (cutFirst? sep) same
    rw [cutFirst?_append free, cutFirst?_append free', Option.some.injEq, Prod.mk.injEq] at cut
    exact cut
  · rintro ⟨rfl, rfl⟩
    rfl

theorem fields_of_free (free : sep ∉ cs) : fields sep cs = [cs] := by
  induction cs with
  | nil => rfl
  | cons c rest ih =>
    obtain ⟨different, restFree⟩ := not_or.1 (mt List.mem_cons.2 free)
    simp [fields, Ne.symm different, ih restFree]

theorem fields_append (free : sep ∉ before) :
    fields sep (before ++ sep :: after) = before :: fields sep after := by
  induction before with
  | nil => simp [fields]
  | cons c rest ih =>
    obtain ⟨different, restFree⟩ := not_or.1 (mt List.mem_cons.2 free)
    simp [fields, Ne.symm different, ih restFree]

/-- Fields have no other characters than the text. -/
theorem mem_of_mem_fields {field : List Char} (mem : field ∈ fields sep cs) {c : Char}
    (inside : c ∈ field) : c ∈ cs := by
  induction cs generalizing field with
  | nil =>
    obtain rfl := List.mem_singleton.1 mem
    exact inside
  | cons d rest ih =>
    simp only [fields] at mem
    split at mem
    · rcases List.mem_cons.1 mem with rfl | later
      · cases inside
      · exact List.mem_cons_of_mem d (ih later inside)
    · split at mem
      · obtain rfl := List.mem_singleton.1 mem
        rw [List.mem_singleton.1 inside]
        exact List.mem_cons_self
      · next first more split_rest =>
        rw [split_rest] at ih
        rcases List.mem_cons.1 mem with rfl | later
        · rcases List.mem_cons.1 inside with rfl | inside
          · exact List.mem_cons_self
          · exact List.mem_cons_of_mem d (ih List.mem_cons_self inside)
        · exact List.mem_cons_of_mem d (ih (List.mem_cons_of_mem _ later) inside)

/-- No field has a separator in it. -/
theorem sep_not_mem_fields {field : List Char} (mem : field ∈ fields sep cs) : sep ∉ field := by
  induction cs generalizing field with
  | nil =>
    obtain rfl := List.mem_singleton.1 mem
    exact List.not_mem_nil
  | cons c rest ih =>
    obtain ⟨first, more, split⟩ := List.exists_cons_of_ne_nil (fields_ne_nil sep rest)
    rw [split] at ih
    by_cases here : c = sep
    · rw [fields, if_pos here, split] at mem
      rcases List.mem_cons.1 mem with rfl | later
      · exact List.not_mem_nil
      · exact ih later
    · rw [fields, if_neg here, split] at mem
      rcases List.mem_cons.1 mem with rfl | later
      · have free : sep ∉ first := ih List.mem_cons_self
        simp [Ne.symm here, free]
      · exact ih (List.mem_cons_of_mem _ later)

/-- Text without separators that is put behind a text goes into the last field. -/
theorem exists_fields_append (free : sep ∉ after) (cs : List Char) :
    ∃ front last, fields sep cs = front ++ [last] ∧
      fields sep (cs ++ after) = front ++ [last ++ after] := by
  induction cs with
  | nil => exact ⟨[], [], rfl, fields_of_free free⟩
  | cons c rest ih =>
    obtain ⟨front, last, whole, longer⟩ := ih
    by_cases here : c = sep
    · refine ⟨[] :: front, last, ?_, ?_⟩
      · rw [fields, if_pos here, whole, List.cons_append]
      · rw [List.cons_append, fields, if_pos here, longer, List.cons_append]
    · cases front with
      | nil => exact ⟨[], c :: last, by simp [fields, here, whole], by simp [fields, here, longer]⟩
      | cons first front =>
        exact ⟨(c :: first) :: front, last, by simp [fields, here, whole],
          by simp [fields, here, longer]⟩

theorem cutFirst?_of_free (free : sep ∉ cs) : cutFirst? sep cs = none := by
  induction cs with
  | nil => rfl
  | cons c rest ih =>
    obtain ⟨different, restFree⟩ := not_or.1 (mt List.mem_cons.2 free)
    simp [cutFirst?, Ne.symm different, ih restFree]

theorem cutLast?_append (free : sep ∉ after) :
    cutLast? sep (before ++ sep :: after) = some (before, after) := by
  have reversed : (before ++ sep :: after).reverse = after.reverse ++ sep :: before.reverse := by
    simp
  rw [cutLast?, reversed, cutFirst?_append (by simpa using free)]
  simp

/-- A text comes apart at its last separator in one way only. -/
theorem append_lastSep_inj {before' after' : List Char} (free : sep ∉ after)
    (free' : sep ∉ after') :
    before ++ sep :: after = before' ++ sep :: after' ↔ before = before' ∧ after = after' := by
  constructor
  · intro same
    have cut := congrArg (cutLast? sep) same
    rw [cutLast?_append free, cutLast?_append free', Option.some.injEq, Prod.mk.injEq] at cut
    exact cut
  · rintro ⟨rfl, rfl⟩
    rfl

theorem cutLast?_of_free (free : sep ∉ cs) : cutLast? sep cs = none := by
  rw [cutLast?, cutFirst?_of_free (by simpa using free)]
  rfl

theorem replaceChar_of_free {new : List Char} (free : sep ∉ cs) : replaceChar sep new cs = cs := by
  induction cs with
  | nil => rfl
  | cons c rest ih =>
    obtain ⟨different, restFree⟩ := not_or.1 (mt List.mem_cons.2 free)
    rw [replaceChar, List.flatMap_cons, if_neg (Ne.symm different), ← replaceChar, ih restFree]
    rfl

theorem beforeEnd?_append (ending : List Char) : beforeEnd? ending (cs ++ ending) = some cs := by
  rw [beforeEnd?, List.reverse_append, afterStart?_append]
  simp

theorem isSome_beforeEnd?_iff {ending : List Char} :
    (beforeEnd? ending cs).isSome = true ↔ ending <:+ cs := by
  constructor
  · intro found
    obtain ⟨front, cut⟩ := Option.isSome_iff_exists.1 found
    obtain ⟨back, start, -⟩ := Option.map_eq_some_iff.1 cut
    rw [← List.reverse_prefix]
    exact ⟨back, (eq_append_of_afterStart? start).symm⟩
  · rintro ⟨front, rfl⟩
    rw [beforeEnd?_append, Option.isSome_some]

theorem beforeEnd?_of_free (free : sep ∉ cs) : beforeEnd? [sep] cs = none := by
  cases found : beforeEnd? [sep] cs with
  | none => rfl
  | some front =>
    obtain ⟨back, start, -⟩ := Option.map_eq_some_iff.1 found
    have whole := eq_append_of_afterStart? start
    exact absurd (List.mem_reverse.1 (whole ▸ List.mem_cons_self)) free

/-! Joining. -/

/-- The last piece stands behind the last separator. -/
theorem intercalate_concat {pieces : List (List Char)} (nonempty : pieces ≠ []) (last : List Char) :
    [sep].intercalate (pieces ++ [last]) = [sep].intercalate pieces ++ sep :: last := by
  induction pieces with
  | nil => contradiction
  | cons piece rest ih =>
    cases rest with
    | nil => simp
    | cons next more =>
      have shorter := ih (by simp)
      rw [List.cons_append] at shorter
      simp [shorter]

/-- Joined pieces hold the characters of the pieces, and otherwise only
separators. -/
theorem mem_intercalate {pieces : List (List Char)} {c : Char} (different : c ≠ sep) :
    c ∈ [sep].intercalate pieces ↔ ∃ piece ∈ pieces, c ∈ piece := by
  induction pieces with
  | nil => simp [List.intercalate]
  | cons piece rest ih =>
    cases rest with
    | nil => simp
    | cons next more =>
      rw [List.intercalate_cons_cons, List.append_assoc, List.mem_append, List.singleton_append,
        List.mem_cons, ih]
      simp [different]

/-- Writing one separator in place of another joins the pieces with it. -/
theorem replaceChar_intercalate {sep' : Char} {pieces : List (List Char)}
    (free : ∀ piece ∈ pieces, sep ∉ piece) :
    replaceChar sep [sep'] ([sep].intercalate pieces) = [sep'].intercalate pieces := by
  induction pieces with
  | nil => rfl
  | cons piece rest ih =>
    have first : replaceChar sep [sep'] piece = piece :=
      replaceChar_of_free (free piece List.mem_cons_self)
    have later := ih fun p mem => free p (List.mem_cons_of_mem piece mem)
    cases rest with
    | nil => simpa using first
    | cons next more =>
      rw [List.intercalate_cons_cons, List.intercalate_cons_cons, List.append_assoc,
        List.append_assoc, ← later, replaceChar, List.flatMap_append, ← replaceChar, first]
      simp [replaceChar]

/-- The fields of joined pieces are the pieces. -/
theorem fields_intercalate {pieces : List (List Char)} (nonempty : pieces ≠ [])
    (free : ∀ piece ∈ pieces, sep ∉ piece) :
    fields sep ([sep].intercalate pieces) = pieces := by
  induction pieces with
  | nil => contradiction
  | cons piece rest ih =>
    have pieceFree : sep ∉ piece := free piece List.mem_cons_self
    cases rest with
    | nil => simpa [List.intercalate] using fields_of_free pieceFree
    | cons next more =>
      rw [List.intercalate_cons_cons, List.append_assoc, List.singleton_append,
        fields_append pieceFree, ih (by simp) fun p mem => free p (by simp [mem])]

/-- Where no piece is empty, only no pieces at all are joined to nothing. -/
theorem intercalate_eq_nil_iff {pieces : List (List Char)}
    (nonempty : ∀ piece ∈ pieces, piece ≠ []) :
    [sep].intercalate pieces = [] ↔ pieces = [] := by
  constructor
  · intro empty
    cases pieces with
    | nil => rfl
    | cons piece rest =>
      have pieceNe := nonempty piece List.mem_cons_self
      cases rest with
      | nil => exact absurd (by simpa using empty) pieceNe
      | cons next more =>
        rw [List.intercalate_cons_cons] at empty
        simp [pieceNe] at empty
  · rintro rfl
    rfl

/-- Joining the fields of a text gives the text. -/
theorem intercalate_fields (sep : Char) (cs : List Char) :
    [sep].intercalate (fields sep cs) = cs := by
  induction cs with
  | nil => rfl
  | cons c rest ih =>
    obtain ⟨field, more, split⟩ := List.exists_cons_of_ne_nil (fields_ne_nil sep rest)
    by_cases here : c = sep
    · rw [fields, if_pos here, split, List.intercalate_cons_cons, ← split, ih, here]
      rfl
    · rw [fields, if_neg here, split]
      rw [split] at ih
      cases more with
      | nil => simpa using ih
      | cons next more =>
        rw [List.intercalate_cons_cons] at ih ⊢
        simpa using ih

/-- A separator that was written in place of another one can be told from the rest
of the text, if there was none before. -/
theorem replaceChar_replaceChar {sep' : Char} (free : sep' ∉ cs) :
    replaceChar sep' [sep] (replaceChar sep [sep'] cs) = cs := by
  have written : replaceChar sep [sep'] cs = [sep'].intercalate (fields sep cs) := by
    rw [← replaceChar_intercalate fun piece mem => sep_not_mem_fields mem, intercalate_fields]
  rw [written, replaceChar_intercalate fun piece mem inside => free (mem_of_mem_fields mem inside),
    intercalate_fields]

end CallGraph.Text
