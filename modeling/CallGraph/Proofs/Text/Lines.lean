import CallGraph.Proofs.Text.Cut
import CallGraph.Text.Blank
import CallGraph.Text.Lines

/-! Lines and their ends. No line holds a character that ends lines. Texts that
are joined by line feeds are the lines of the whole if none of them holds such a
character and the last one is not empty; and only if, where all of them have some
text. -/
namespace CallGraph.Text

variable {c : Char} {line cs rest : List Char}

/-- None of the characters ends a line. -/
def Unbroken (cs : List Char) : Prop := ∀ c ∈ cs, endsLine c = false

-- Not by going through all characters.
instance (cs : List Char) : Decidable (Unbroken cs) :=
  List.decidableBAll (fun c => endsLine c = false) cs

theorem Unbroken.append {text text' : String} (first : Unbroken text.toList)
    (second : Unbroken text'.toList) : Unbroken (text ++ text').toList := by
  rw [String.toList_append]
  exact List.forall_mem_append.2 ⟨first, second⟩

/-- What ends a line is a blank. -/
theorem isBlank_of_endsLine (ends : endsLine c = true) : isBlank c = true := by
  simp only [endsLine, isBlank, isWhiteSpace, Bool.or_eq_true, Bool.and_eq_true, beq_iff_eq,
    decide_eq_true_eq] at ends ⊢
  omega

/-! One character. -/

theorem linesFrom_lineFeed (line rest : List Char) :
    linesFrom line ('\n' :: rest) = line.reverse :: linesFrom [] rest := by
  rw [linesFrom, if_pos (by decide)]
  intro _ other
  cases other

theorem linesFrom_plain (plain : endsLine c = false) :
    linesFrom line (c :: rest) = linesFrom (c :: line) rest := by
  rw [linesFrom, if_neg (by simp [plain])]
  rintro _ rfl
  cases plain

/-! All characters. -/

theorem linesFrom_append (whole : Unbroken cs) :
    linesFrom line (cs ++ rest) = linesFrom (cs.reverse ++ line) rest := by
  induction cs generalizing line with
  | nil => rfl
  | cons c cs ih =>
    obtain ⟨first, more⟩ := List.forall_mem_cons.1 whole
    rw [List.cons_append, linesFrom_plain first, ih more]
    simp

theorem linesFrom_whole (whole : Unbroken cs) (some : cs ≠ []) : linesFrom [] cs = [cs] := by
  have read : linesFrom [] (cs ++ []) = _ := linesFrom_append whole
  rw [List.append_nil, List.append_nil] at read
  rw [read]
  cases reversed : cs.reverse with
  | nil => exact absurd (List.reverse_eq_nil_iff.1 reversed) some
  | cons c line =>
    rw [linesFrom, ← reversed, List.reverse_reverse]

/-- No line holds a character that ends lines. -/
theorem linesFrom_unbroken (whole : Unbroken line) : ∀ l ∈ linesFrom line cs, Unbroken l := by
  have reverse : ∀ {line}, Unbroken line → Unbroken line.reverse :=
    fun whole c mem => whole c (List.mem_reverse.1 mem)
  have none : Unbroken [] := List.forall_mem_nil _
  -- The part of the line that has been read is unbroken all along.
  fun_induction linesFrom line cs with
  | case1 => exact List.forall_mem_nil _
  | case2 => exact List.forall_mem_singleton.2 (reverse whole)
  | case3 _ _ ih => exact List.forall_mem_cons.2 ⟨reverse whole, ih none⟩
  | case4 _ _ _ _ _ ih => exact List.forall_mem_cons.2 ⟨reverse whole, ih none⟩
  | case5 _ _ _ _ plain ih => exact ih (List.forall_mem_cons.2 ⟨by simpa using plain, whole⟩)

theorem linesFrom_intercalate {pieces : List (List Char)} (whole : ∀ piece ∈ pieces, Unbroken piece)
    (ended : pieces.getLast? ≠ some []) : linesFrom [] (['\n'].intercalate pieces) = pieces := by
  induction pieces with
  | nil => rfl
  | cons piece pieces ih =>
    obtain ⟨first, more⟩ := List.forall_mem_cons.1 whole
    cases pieces with
    | nil =>
      have some : piece ≠ [] := by simpa using ended
      simpa [List.intercalate] using linesFrom_whole first some
    | cons next pieces =>
      rw [List.getLast?_cons_cons] at ended
      rw [List.intercalate_cons_cons, List.append_assoc, List.singleton_append,
        linesFrom_append first, linesFrom_lineFeed, ih more ended, List.append_nil,
        List.reverse_reverse]

/-- Texts that are joined by line feeds. -/
def joined (texts : List String) : List Char := ['\n'].intercalate (texts.map String.toList)

theorem lines_joined {texts : List String} (whole : ∀ text ∈ texts, Unbroken text.toList)
    (ended : texts.getLast? ≠ some "") : lines (String.ofList (joined texts)) = texts := by
  have last : (texts.map String.toList).getLast? ≠ some [] := by
    rw [List.getLast?_map]
    intro empty
    obtain ⟨text, found, same⟩ := Option.map_eq_some_iff.1 empty
    exact ended (by rw [found, String.toList_eq_nil_iff.1 same])
  rw [lines, String.toList_ofList, joined, linesFrom_intercalate (List.forall_mem_map.2 whole) last,
    List.map_map]
  exact List.map_id'' (fun text => String.ofList_toList) texts

/-- Texts that are joined are read as they are exactly if none of them holds a
character that ends lines. -/
theorem lines_joined_iff {texts : List String} (some : ∀ text ∈ texts, text ≠ "") :
    lines (String.ofList (joined texts)) = texts ↔ ∀ text ∈ texts, Unbroken text.toList := by
  constructor
  · rw [lines, String.toList_ofList]
    intro same text mem
    rw [← same] at mem
    obtain ⟨l, here, rfl⟩ := List.mem_map.1 mem
    rw [String.toList_ofList]
    exact linesFrom_unbroken (List.forall_mem_nil _) l here
  · intro whole
    exact lines_joined whole fun empty => some "" (List.mem_of_getLast? empty) rfl

end CallGraph.Text
