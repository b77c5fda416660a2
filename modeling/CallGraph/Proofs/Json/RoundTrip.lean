import CallGraph.Proofs.Json.Tokens
import CallGraph.Proofs.Text.Utf8

/-! JSON texts are read back. In either layout, the text of a value without
doubles, with integers that documents can hold and with distinct names in each
object, is read as that value, provided containers do not nest too deep. -/
namespace CallGraph.Json

/-- A value that is read back. No more than so many containers are around any
value inside it. -/
inductive Plain : Nat → Json → Prop
  | null {n : Nat} : Plain n .null
  | bool {n : Nat} (b : Bool) : Plain n (.bool b)
  | int {n : Nat} {i : Int} (fits : fitsDocument i = true) : Plain n (.int i)
  | string {n : Nat} (text : String) : Plain n (.string text)
  | array {n : Nat} {items : List Json} (inside : ∀ item ∈ items, Plain n item) :
      Plain (n + 1) (.array items)
  | object {n : Nat} {members : List (String × Json)} (distinct : (members.map Prod.fst).Nodup)
      (inside : ∀ member ∈ members, Plain n member.2) : Plain (n + 1) (.object members)

/-! Distinct names are all kept. -/

private theorem setMember_new {members : List (String × Json)} {name : String} (value : Json)
    (new : name ∉ members.map Prod.fst) : setMember members name value = members ++ [(name, value)] := by
  induction members with
  | nil => rfl
  | cons m rest ih =>
    rw [List.map_cons, List.mem_cons, not_or] at new
    rw [setMember, if_neg (Ne.symm new.1), ih new.2, List.cons_append]

private theorem foldl_setMember {members : List (String × Json)} (merged : List (String × Json))
    (distinct : ((merged ++ members).map Prod.fst).Nodup) :
    members.foldl (fun merged m => setMember merged m.1 m.2) merged = merged ++ members := by
  induction members generalizing merged with
  | nil => simp
  | cons m rest ih =>
    have new : m.1 ∉ merged.map Prod.fst := by
      rw [List.map_append, List.nodup_append] at distinct
      exact fun mem => distinct.2.2 _ mem _ (by simp) rfl
    rw [List.foldl_cons, setMember_new m.2 new, ih _ (by simpa using distinct), List.append_assoc,
      List.singleton_append]

theorem mergeMembers_distinct {members : List (String × Json)}
    (distinct : (members.map Prod.fst).Nodup) : mergeMembers members = members :=
  foldl_setMember [] (by simpa using distinct)

/-! Where a value begins and ends. -/

/-- A number begins like no other value. -/
private theorem repr_start (i : Int) : ∃ c more, i.repr.toList = c :: more ∧
    isSpace c = false ∧ c ≠ '"' ∧ c ≠ '[' ∧ c ≠ '\x7b' ∧ c ≠ ']' := by
  cases i with
  | ofNat n =>
    rw [show (Int.ofNat n).repr = n.repr from rfl]
    cases digits : n.repr.toList with
    | nil => exact absurd digits (Text.repr_toList_ne_nil n)
    | cons c more =>
      have digit : Text.isAsciiDigit c = true :=
        Text.isAsciiDigit_of_mem_repr (n := n) (by simp [digits])
      have apart : ∀ d, Text.isAsciiDigit d = false → c ≠ d := by
        rintro d other rfl
        exact absurd digit (by simp [other])
      refine ⟨c, more, rfl, ?_, apart _ (by decide), apart _ (by decide), apart _ (by decide),
        apart _ (by decide)⟩
      simp [isSpace, apart ' ' (by decide), apart '\t' (by decide), apart '\n' (by decide),
        apart '\r' (by decide)]
  | negSucc n =>
    rw [Text.repr_negSucc]
    exact ⟨'-', _, rfl, by decide⟩

/-- A written value begins with a character that neither is a blank nor ends an
array. -/
theorem write_start {n : Nat} {value : Json} (plain : Plain n value) (layout : Layout)
    (depth : Nat) :
    ∃ c more, write layout depth value = c :: more ∧ isSpace c = false ∧ c ≠ ']' := by
  cases plain with
  | null => exact ⟨_, _, rfl, by decide⟩
  | bool b => cases b <;> exact ⟨_, _, rfl, by decide⟩
  | @int _ i fits =>
    obtain ⟨c, more, same, dark, -, -, -, apart⟩ := repr_start i
    exact ⟨c, more, same, dark, apart⟩
  | string text => exact ⟨_, _, rfl, by decide⟩
  | @array _ items _ => cases items <;> exact ⟨_, _, rfl, by decide⟩
  | @object _ members _ _ => cases members <;> exact ⟨_, _, rfl, by decide⟩

theorem ends_cons {c : Char} (rest : List Char) (closing : closes c = true) : Ends (c :: rest) := by
  simpa [Ends] using closing

theorem ends_gap {gap rest : List Char} {c : Char} (blank : ∀ c ∈ gap, isSpace c = true)
    (closing : closes c = true) : Ends (gap ++ c :: rest) := by
  cases gap with
  | nil => exact ends_cons rest closing
  | cons space gap => simpa [Ends, closes] using .inl (.inl (.inl (blank space List.mem_cons_self)))

theorem skipSpace_gap {gap rest : List Char} {c : Char} (blank : ∀ c ∈ gap, isSpace c = true)
    (dark : isSpace c = false) : skipSpace (gap ++ c :: rest) = c :: rest := by
  rw [skipSpace_append blank, skipSpace_cons rest dark]

theorem readValue_gap {rules : Rules} {gap : List Char} (blank : ∀ c ∈ gap, isSpace c = true)
    (fuel depth : Nat) (cs : List Char) :
    readValue rules fuel depth (gap ++ cs) = readValue rules fuel depth cs := by
  cases fuel with
  | zero => rfl
  | succ fuel => simp only [readValue, skipSpace_append blank]

theorem readItems_gap {rules : Rules} {gap : List Char} (blank : ∀ c ∈ gap, isSpace c = true)
    (fuel depth : Nat) (cs : List Char) :
    readItems rules fuel depth (gap ++ cs) = readItems rules fuel depth cs := by
  cases fuel with
  | zero => rfl
  | succ fuel => simp only [readItems, readValue_gap blank]

theorem readMembers_gap {rules : Rules} {gap : List Char} (blank : ∀ c ∈ gap, isSpace c = true)
    (fuel depth : Nat) (cs : List Char) :
    readMembers rules fuel depth (gap ++ cs) = readMembers rules fuel depth cs := by
  cases fuel with
  | zero => rfl
  | succ fuel => simp only [readMembers, skipSpace_append blank]

/-! Containers. -/

/-- Where it may end, the value is read from its text, and what follows is left. -/
def ReadBack (layout : Layout) (depth : Nat) (value : Json) : Prop :=
  ∀ fuel rest, Ends rest → (write layout depth value).length < fuel →
    readValue .strict fuel depth (write layout depth value ++ rest) = some (value, rest)

variable {layout : Layout} {depth fuel : Nat} {gap : List Char}

/-- Without fuel nothing is read, and no text is so short. -/
private theorem ReadBack.intro {value : Json} (read : ∀ fuel rest, Ends rest →
    (write layout depth value).length ≤ fuel →
      readValue .strict (fuel + 1) depth (write layout depth value ++ rest) = some (value, rest)) :
    ReadBack layout depth value := by
  intro fuel rest ends enough
  cases fuel with
  | zero => exact absurd enough (Nat.not_lt_zero _)
  | succ fuel => exact read fuel rest ends (Nat.le_of_lt_succ enough)

private theorem writeItems_cons (layout : Layout) (depth : Nat) (item : Json) (items : List Json)
    (tail : List Char) : writeItems layout depth (item :: items) ++ tail =
      ',' :: (layout.break depth ++ (write layout depth item ++
        (writeItems layout depth items ++ tail))) := by
  simp [writeItems]

private theorem ends_items (blank : ∀ c ∈ gap, isSpace c = true) (layout : Layout) (depth : Nat)
    (items : List Json) (rest : List Char) :
    Ends (writeItems layout depth items ++ (gap ++ ']' :: rest)) := by
  cases items with
  | nil => exact ends_gap blank rfl
  | cons item items => exact ends_cons _ rfl

/-- An item that is read back is read, and with it the items behind a comma. -/
private theorem readItems_step {item : Json} {items : List Json} {tail rest : List Char}
    (back : ReadBack layout depth item) (ends : Ends tail)
    (enough : (write layout depth item).length < fuel)
    (follows : items = [] ∧ skipSpace tail = ']' :: rest ∨ ∃ more, skipSpace tail = ',' :: more ∧
      readItems .strict fuel depth more = some (items, rest)) :
    readItems .strict (fuel + 1) depth (write layout depth item ++ tail) =
      some (item :: items, rest) := by
  simp only [readItems, back fuel tail ends enough, Option.bind_eq_bind, Option.bind_some]
  rcases follows with ⟨rfl, closed⟩ | ⟨more, comma, later⟩
  · rw [closed]
    rfl
  · simp only [comma, later]
    rfl

/-- Items that are each read back are read back together, up to the bracket. -/
theorem readItems_writeItems (blank : ∀ c ∈ gap, isSpace c = true) (rest : List Char)
    {item : Json} {items : List Json} (back : ∀ value ∈ item :: items, ReadBack layout depth value)
    (enough : (write layout depth item).length + (writeItems layout depth items).length < fuel) :
    readItems .strict (fuel + 1) depth (write layout depth item ++
      (writeItems layout depth items ++ (gap ++ ']' :: rest))) = some (item :: items, rest) := by
  have first := back item List.mem_cons_self
  have ends := ends_items blank layout depth items rest
  induction items generalizing item fuel with
  | nil => exact readItems_step first ends enough (.inl ⟨rfl, skipSpace_gap blank rfl⟩)
  | cons next more ih =>
    apply readItems_step first ends (Nat.lt_of_le_of_lt (Nat.le_add_right _ _) enough)
    simp only [writeItems, List.length_append, List.length_cons] at enough
    cases fuel with
    | zero => exact absurd enough (Nat.not_lt_zero _)
    | succ fuel =>
      have backMore : ∀ value ∈ next :: more, ReadBack layout depth value := fun value mem =>
        back value (List.mem_cons_of_mem item mem)
      have enoughMore :
          (write layout depth next).length + (writeItems layout depth more).length < fuel := by
        omega
      have later := ih backMore enoughMore (backMore next List.mem_cons_self)
        (ends_items blank layout depth more rest)
      refine .inr ⟨_, ?_, (readItems_gap (break_blank layout depth) _ _ _).trans later⟩
      rw [writeItems_cons, skipSpace_cons _ rfl]

private theorem writeMembers_cons (layout : Layout) (depth : Nat) (name : String) (value : Json)
    (members : List (String × Json)) (tail : List Char) :
    writeMembers layout depth ((name, value) :: members) ++ tail =
      ',' :: (layout.break depth ++ (writeString name ++ (layout.colon ++
        (write layout depth value ++ (writeMembers layout depth members ++ tail))))) := by
  simp [writeMembers]

private theorem ends_members (blank : ∀ c ∈ gap, isSpace c = true) (layout : Layout) (depth : Nat)
    (members : List (String × Json)) (rest : List Char) :
    Ends (writeMembers layout depth members ++ (gap ++ '\x7d' :: rest)) := by
  cases members with
  | nil => exact ends_gap blank rfl
  | cons member members => exact ends_cons _ rfl

/-- A written name is read up to the blank in front of its value. -/
private theorem readChars_name (layout : Layout) (name : String) (cs : List Char) :
    ∃ inside gap, writeString name ++ (layout.colon ++ cs) = '"' :: inside ∧
      readChars [] inside = some (name.toList, ':' :: (gap ++ cs)) ∧ ∀ c ∈ gap, isSpace c = true := by
  obtain ⟨inside, quoted, read⟩ := readChars_writeString name (layout.colon ++ cs)
  cases layout with
  | compact => exact ⟨inside, [], quoted, read, by simp⟩
  | indented => exact ⟨inside, [' '], quoted, read, by simp [isSpace]⟩

/-- A member whose value is read back is read, and with it the members behind a
comma. -/
private theorem readMembers_step {name : String} {value : Json} {members : List (String × Json)}
    {tail rest : List Char} (back : ReadBack layout depth value) (ends : Ends tail)
    (enough : (write layout depth value).length < fuel)
    (follows : members = [] ∧ skipSpace tail = '\x7d' :: rest ∨
      ∃ more, skipSpace tail = ',' :: more ∧
        readMembers .strict fuel depth more = some (members, rest)) :
    readMembers .strict (fuel + 1) depth (writeString name ++ (layout.colon ++
      (write layout depth value ++ tail))) = some ((name, value) :: members, rest) := by
  obtain ⟨inside, space, quoted, read, blank⟩ :=
    readChars_name layout name (write layout depth value ++ tail)
  rw [quoted]
  simp only [readMembers, skipSpace_cons _ (show isSpace '"' = false from rfl), read,
    Option.bind_eq_bind, Option.bind_some, skipSpace_cons _ (show isSpace ':' = false from rfl),
    readValue_gap blank, back fuel tail ends enough, String.ofList_toList]
  rcases follows with ⟨rfl, closed⟩ | ⟨more, comma, later⟩
  · rw [closed]
    rfl
  · simp only [comma, later]
    rfl

/-- Members whose values are each read back are read back together, up to the
brace. -/
theorem readMembers_writeMembers (blank : ∀ c ∈ gap, isSpace c = true) (rest : List Char)
    {name : String} {value : Json} {members : List (String × Json)}
    (back : ∀ member ∈ (name, value) :: members, ReadBack layout depth member.2)
    (enough : (write layout depth value).length + (writeMembers layout depth members).length <
      fuel) :
    readMembers .strict (fuel + 1) depth (writeString name ++ (layout.colon ++
      (write layout depth value ++ (writeMembers layout depth members ++ (gap ++ '\x7d' :: rest))))) =
        some ((name, value) :: members, rest) := by
  have first : ReadBack layout depth value := back (name, value) List.mem_cons_self
  have ends := ends_members blank layout depth members rest
  induction members generalizing name value fuel with
  | nil => exact readMembers_step first ends enough (.inl ⟨rfl, skipSpace_gap blank rfl⟩)
  | cons next more ih =>
    apply readMembers_step first ends (Nat.lt_of_le_of_lt (Nat.le_add_right _ _) enough)
    simp only [writeMembers, List.length_append, List.length_cons] at enough
    cases fuel with
    | zero => exact absurd enough (Nat.not_lt_zero _)
    | succ fuel =>
      have backMore : ∀ member ∈ next :: more, ReadBack layout depth member.2 := fun member mem =>
        back member (List.mem_cons_of_mem _ mem)
      have enoughMore :
          (write layout depth next.2).length + (writeMembers layout depth more).length < fuel := by
        omega
      have later := ih backMore enoughMore (backMore next List.mem_cons_self)
        (ends_members blank layout depth more rest)
      refine .inr ⟨_, ?_, (readMembers_gap (break_blank layout depth) _ _ _).trans later⟩
      rw [writeMembers_cons, skipSpace_cons _ rfl]

/-! Values. -/

/-- A value that starts like neither a string nor a container is a scalar. -/
private theorem readValue_scalar {rules : Rules} {c : Char} {cs : List Char} (dark : isSpace c = false)
    (apart : c ≠ '"' ∧ c ≠ '[' ∧ c ≠ '\x7b') :
    readValue rules (fuel + 1) depth (c :: cs) = readScalar rules (c :: cs) := by
  rw [readValue.eq_def]
  simp only [skipSpace_cons cs dark]
  split
  · next same => exact absurd (List.cons.inj same).1 apart.1
  · next same => exact absurd (List.cons.inj same).1 apart.2.1
  · next same => exact absurd (List.cons.inj same).1 apart.2.2
  · rfl

private theorem readBack_int {i : Int} (fits : fitsDocument i = true) :
    ReadBack layout depth (.int i) := by
  apply ReadBack.intro
  intro fuel rest ends _
  have read := readScalar_repr fits ends
  obtain ⟨c, more, same, dark, quote, bracket, brace, -⟩ := repr_start i
  rw [write]
  rw [same, List.cons_append] at read ⊢
  rw [readValue_scalar dark ⟨quote, bracket, brace⟩, read]

private theorem readValue_array {rules : Rules} {c : Char} (cs : List Char)
    (room : depth < rules.maxDepth) (blank : ∀ c ∈ gap, isSpace c = true) (dark : isSpace c = false)
    (apart : c ≠ ']') : readValue rules (fuel + 1) depth ('[' :: (gap ++ c :: cs)) =
      (readItems rules fuel (depth + 1) (c :: cs)).map fun (items, rest) => (.array items, rest) := by
  simp only [readValue, skipSpace_cons _ (show isSpace '[' = false from rfl),
    skipSpace_gap blank dark]
  split
  · next same => exact absurd (List.cons.inj same).1 apart
  · rw [if_pos room]

private theorem readValue_object {rules : Rules} (cs : List Char)
    (room : depth < rules.maxDepth) (blank : ∀ c ∈ gap, isSpace c = true) :
    readValue rules (fuel + 1) depth ('\x7b' :: (gap ++ '"' :: cs)) =
      (readMembers rules fuel (depth + 1) ('"' :: cs)).map fun (members, rest) =>
        (objectOf rules members, rest) := by
  simp only [readValue, skipSpace_cons _ (show isSpace '\x7b' = false from rfl),
    skipSpace_gap blank (show isSpace '"' = false from rfl), if_pos room]
  rfl

/-- In either layout, a plain value is read back. -/
theorem readBack_of_plain {n : Nat} {value : Json} (plain : Plain n value)
    (room : depth + n ≤ Rules.strict.maxDepth) : ReadBack layout depth value := by
  induction plain generalizing depth with
  | null =>
    apply ReadBack.intro
    intro fuel rest _ _
    exact readValue_scalar rfl (by decide)
  | bool b =>
    apply ReadBack.intro
    intro fuel rest _ _
    cases b <;> exact readValue_scalar rfl (by decide)
  | int fits => exact readBack_int fits
  | string text =>
    apply ReadBack.intro
    intro fuel rest _ _
    obtain ⟨inside, quoted, read⟩ := readChars_writeString text rest
    rw [write, quoted]
    simp only [readValue, skipSpace_cons _ (show isSpace '"' = false from rfl), read,
      Option.map_some, String.ofList_toList]
  | @array n items inside ih =>
    apply ReadBack.intro
    intro fuel rest _ enough
    cases items with
    | nil => rfl
    | cons item items =>
      obtain ⟨c, more, start, dark, apart⟩ :=
        write_start (inside item List.mem_cons_self) layout (depth + 1)
      have back : ∀ value ∈ item :: items, ReadBack layout (depth + 1) value :=
        fun value mem => ih value mem (by omega)
      simp only [write, List.length_append, List.length_cons, List.length_nil] at enough
      cases fuel with
      | zero => exact absurd enough (Nat.not_succ_le_zero _)
      | succ fuel =>
        have enoughInside : (write layout (depth + 1) item).length +
            (writeItems layout (depth + 1) items).length < fuel := by omega
        have read := readItems_writeItems (break_blank layout depth) rest back enoughInside
        simp only [write, List.cons_append, List.append_assoc, List.nil_append]
        rw [start, List.cons_append] at read ⊢
        rw [readValue_array _ (by omega) (break_blank layout (depth + 1)) dark apart, read]
        rfl
  | @object n members distinct inside ih =>
    apply ReadBack.intro
    intro fuel rest _ enough
    cases members with
    | nil => rfl
    | cons member members =>
      obtain ⟨name, value⟩ := member
      have back : ∀ member ∈ (name, value) :: members, ReadBack layout (depth + 1) member.2 :=
        fun member mem => ih member mem (by omega)
      simp only [write, List.length_append, List.length_cons, List.length_nil] at enough
      cases fuel with
      | zero => exact absurd enough (Nat.not_succ_le_zero _)
      | succ fuel =>
        have enoughInside : (write layout (depth + 1) value).length +
            (writeMembers layout (depth + 1) members).length < fuel := by omega
        have read := readMembers_writeMembers (break_blank layout depth) rest back enoughInside
        simp only [write, List.cons_append, List.append_assoc, List.nil_append]
        obtain ⟨quoted, start⟩ : ∃ quoted, writeString name = '"' :: quoted := ⟨_, rfl⟩
        rw [start, List.cons_append] at read ⊢
        rw [readValue_object _ (by omega) (break_blank layout (depth + 1)), read]
        simp only [Option.map_some, objectOf, Rules.strict, if_true, mergeMembers_distinct distinct]

/-- The text of a plain value is read as that value, also in UTF-8 and with
white space behind it. -/
theorem ofOctets?_text {n : Nat} {value : Json} (plain : Plain n value)
    (room : n ≤ Rules.strict.maxDepth) (layout : Layout) (blank : ∀ c ∈ gap, isSpace c = true) :
    ofOctets? .strict (Text.encodeUtf8 ((text layout value).toList ++ gap)) = some value := by
  have ends : Ends gap := by
    intro c first
    simp [closes, blank c (List.mem_of_mem_head? first)]
  have back : ReadBack layout 0 value := readBack_of_plain plain (by omega)
  have read := back ((write layout 0 value ++ gap).length + 1) gap ends
    (by rw [List.length_append]; omega)
  have nothing : skipSpace gap = [] := by
    have skipped : skipSpace (gap ++ []) = skipSpace [] := skipSpace_append blank
    rwa [List.append_nil] at skipped
  rw [ofOctets?, Text.decodeUtf8?_encodeUtf8, Option.bind_some, text, String.toList_ofList, ofChars?,
    read]
  simp [nothing]

end CallGraph.Json
