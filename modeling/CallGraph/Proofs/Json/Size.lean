import CallGraph.Json.Reader

/-! A JSON text is at least as long as the lists in it. Every item takes a
character of its own, so a list that was read has no more items than its text
has characters. -/
namespace CallGraph.Json

/-- The value is no list of more than so many items, nor an object with such a
list for a member. -/
def Bounded (n : Nat) : Json → Prop
  | .array items => items.length ≤ n
  | .object members => ∀ member ∈ members, ∀ items, member.2 = .array items → items.length ≤ n
  | _ => True

theorem Bounded.mono {n m : Nat} {value : Json} (bounded : Bounded n value) (le : n ≤ m) :
    Bounded m value := by
  cases value with
  | array items => exact Nat.le_trans bounded le
  | object members => exact fun member mem items same => Nat.le_trans (bounded member mem items same) le
  | _ => trivial

theorem skipSpace_length (cs : List Char) : (skipSpace cs).length ≤ cs.length :=
  (List.dropWhile_suffix _).length_le

/-! Strings and scalars. -/

theorem readChars_length {acc cs text rest : List Char} :
    readChars acc cs = some (text, rest) → rest.length < cs.length := by
  fun_induction readChars acc cs
  all_goals
    intro read
    first
      | cases read; done
      | cases read; exact Nat.lt_succ_self _
      | rename_i ih
        have shorter := ih read
        simp only [List.length_cons]
        omega

private theorem readNamed_bounded {names : List (String × Json)}
    (plain : ∀ entry ∈ names, ∀ n, Bounded n entry.2) {cs rest : List Char} {value : Json}
    (read : readNamed names cs = some (value, rest)) :
    rest.length ≤ cs.length ∧ ∀ n, Bounded n value := by
  obtain ⟨entry, mem, found⟩ := List.exists_of_findSome?_eq_some read
  obtain ⟨rest', cut, same⟩ := Option.map_eq_some_iff.1 found
  obtain ⟨rfl, rfl⟩ := Prod.mk.inj same
  have split := Text.eq_append_of_afterStart? cut
  exact ⟨by simp [split], plain entry mem⟩

private theorem spanDigits_length (cs : List Char) : (spanDigits cs).2.length ≤ cs.length :=
  (List.dropWhile_suffix _).length_le

private theorem readFraction_length {cs digits rest : List Char}
    (read : readFraction cs = some (digits, rest)) : rest.length ≤ cs.length := by
  unfold readFraction at read
  split at read
  · next cs =>
    have shorter := spanDigits_length cs
    split at read
    · cases read
    · rw [Option.some.inj read] at shorter
      exact Nat.le_succ_of_le shorter
  · cases read
    exact Nat.le_refl _

private theorem readExponent_length {cs rest : List Char} {exponent? : Option Int}
    (read : readExponent cs = some (exponent?, rest)) : rest.length ≤ cs.length := by
  unfold readExponent at read
  split at read
  · next e cs =>
    split at read
    · simp only at read
      split at read
      · cases read
      · next found =>
        cases read
        have same := congrArg (fun cut : List Char × List Char => cut.2.length) found
        refine Nat.le_trans (Nat.le_of_eq same.symm) (Nat.le_trans (spanDigits_length _) ?_)
        split <;> simp only [List.length_cons] <;> omega
    · cases read
      exact Nat.le_refl _
  · cases read
    exact Nat.le_refl _

private theorem floatValue?_bounded {rules : Rules} {double : Double} {value : Json}
    (read : floatValue? rules double = some value) (n : Nat) : Bounded n value := by
  unfold floatValue? at read
  split at read
  · cases read
    trivial
  · cases read

private theorem intValue?_bounded {rules : Rules} {negative : Bool} {digits : List Char} {value : Json}
    (read : intValue? rules negative digits = some value) (n : Nat) : Bounded n value := by
  unfold intValue? at read
  simp only at read
  generalize (if negative = true then -(natOfDigits digits : Int) else natOfDigits digits) = number
    at read
  split at read
  · split at read
    · cases read
      trivial
    · cases read
  · split at read
    · cases read
      trivial
    · exact floatValue?_bounded read n

private theorem readMagnitude_bounded {rules : Rules} {negative : Bool} {cs rest : List Char}
    {value : Json} (read : readMagnitude rules negative cs = some (value, rest)) :
    rest.length ≤ cs.length ∧ ∀ n, Bounded n value := by
  unfold readMagnitude at read
  simp only at read
  split at read
  · cases read
  · obtain ⟨⟨fraction, afterFraction⟩, first, read⟩ := Option.bind_eq_some_iff.1 read
    obtain ⟨⟨exponent?, afterExponent⟩, second, read⟩ := Option.bind_eq_some_iff.1 read
    have shorter := Nat.le_trans (readExponent_length second)
      (Nat.le_trans (readFraction_length first) (spanDigits_length cs))
    split at read
    · obtain ⟨number, whole, same⟩ := Option.bind_eq_some_iff.1 read
      cases same
      exact ⟨shorter, intValue?_bounded whole⟩
    · obtain ⟨number, decimal, same⟩ := Option.bind_eq_some_iff.1 read
      cases same
      exact ⟨shorter, floatValue?_bounded decimal⟩

theorem readScalar_bounded {rules : Rules} {cs rest : List Char} {value : Json}
    (read : readScalar rules cs = some (value, rest)) :
    rest.length ≤ cs.length ∧ ∀ n, Bounded n value := by
  have plain : ∀ entry ∈ literals ++ (if rules.specialNumbers then
      specialNumbers.map fun entry => (entry.1, Json.float entry.2) else []), ∀ n, Bounded n entry.2 := by
    intro entry mem n
    rcases List.mem_append.1 mem with literal | special
    · simp only [literals, List.mem_cons, List.not_mem_nil, or_false] at literal
      rcases literal with rfl | rfl | rfl <;> trivial
    · split at special
      · obtain ⟨named, -, rfl⟩ := List.mem_map.1 special
        trivial
      · cases special
  unfold readScalar at read
  simp only at read
  split at read
  · next named =>
    rw [Option.some.inj read] at named
    exact readNamed_bounded plain named
  · split at read
    · obtain ⟨shorter, bounded⟩ := readMagnitude_bounded read
      exact ⟨Nat.le_succ_of_le shorter, bounded⟩
    · exact readMagnitude_bounded read

/-! Values. -/

/-- What reading with so much fuel leaves of a text, and what it takes. -/
structure ReadsBounded (fuel : Nat) : Prop where
  value : ∀ depth cs value rest, readValue .analyzer fuel depth cs = some (value, rest) →
    rest.length ≤ cs.length ∧ Bounded cs.length value
  items : ∀ depth cs items rest, readItems .analyzer fuel depth cs = some (items, rest) →
    items.length + rest.length ≤ cs.length
  members : ∀ depth cs members rest, readMembers .analyzer fuel depth cs = some (members, rest) →
    rest.length ≤ cs.length ∧ Bounded cs.length (.object members)

namespace ReadsBounded

variable {fuel : Nat}

private theorem value_succ (ih : ReadsBounded fuel) {depth : Nat} {cs rest : List Char}
    {value : Json} (read : readValue .analyzer (fuel + 1) depth cs = some (value, rest)) :
    rest.length ≤ cs.length ∧ Bounded cs.length value := by
  have space := skipSpace_length cs
  rw [readValue.eq_def] at read
  simp only at read
  split at read
  · next found =>
    rw [found] at space
    obtain ⟨⟨text, after⟩, chars, same⟩ := Option.map_eq_some_iff.1 read
    cases same
    have shorter := readChars_length chars
    simp only [List.length_cons] at space ⊢
    exact ⟨by omega, trivial⟩
  · next inside found =>
    rw [found, List.length_cons] at space
    have space' := skipSpace_length inside
    split at read
    · next found' =>
      rw [found', List.length_cons] at space'
      cases read
      exact ⟨by omega, Nat.zero_le _⟩
    · split at read
      · obtain ⟨⟨items, after⟩, later, same⟩ := Option.map_eq_some_iff.1 read
        cases same
        have shorter := ih.items _ _ _ _ later
        exact ⟨by simp only; omega, show items.length ≤ cs.length by omega⟩
      · cases read
  · next inside found =>
    rw [found, List.length_cons] at space
    have space' := skipSpace_length inside
    split at read
    · next found' =>
      rw [found', List.length_cons] at space'
      cases read
      exact ⟨by omega, by simp [Bounded]⟩
    · split at read
      · obtain ⟨⟨members, after⟩, later, same⟩ := Option.map_eq_some_iff.1 read
        cases same
        obtain ⟨shorter, bounded⟩ := ih.members _ _ _ _ later
        exact ⟨by simp only; omega, bounded.mono (by omega)⟩
      · cases read
  · obtain ⟨shorter, bounded⟩ := readScalar_bounded read
    exact ⟨Nat.le_trans shorter space, bounded _⟩

private theorem items_succ (ih : ReadsBounded fuel) {depth : Nat} {cs rest : List Char}
    {items : List Json} (read : readItems .analyzer (fuel + 1) depth cs = some (items, rest)) :
    items.length + rest.length ≤ cs.length := by
  rw [readItems] at read
  obtain ⟨⟨item, after⟩, first, read⟩ := Option.bind_eq_some_iff.1 read
  have shorter := (ih.value _ _ _ _ first).1
  have space := skipSpace_length after
  simp only at read
  split at read
  · next found =>
    rw [found] at space
    cases read
    simp only [List.length_cons, List.length_nil] at space ⊢
    omega
  · next found =>
    rw [found] at space
    obtain ⟨⟨more, rest'⟩, later, same⟩ := Option.bind_eq_some_iff.1 read
    cases same
    have shorter' := ih.items _ _ _ _ later
    simp only [List.length_cons] at space shorter' ⊢
    omega
  · cases read

private theorem members_succ (ih : ReadsBounded fuel) {depth : Nat} {cs rest : List Char}
    {members : List (String × Json)}
    (read : readMembers .analyzer (fuel + 1) depth cs = some (members, rest)) :
    rest.length ≤ cs.length ∧ Bounded cs.length (.object members) := by
  have space := skipSpace_length cs
  rw [readMembers] at read
  split at read
  · next found =>
    rw [found, List.length_cons] at space
    obtain ⟨⟨name, afterName⟩, chars, read⟩ := Option.bind_eq_some_iff.1 read
    have shorter := readChars_length chars
    have space' := skipSpace_length afterName
    simp only at read
    split at read
    · next found' =>
      rw [found', List.length_cons] at space'
      obtain ⟨⟨value, afterValue⟩, first, read⟩ := Option.bind_eq_some_iff.1 read
      obtain ⟨shorter', bounded⟩ := ih.value _ _ _ _ first
      have space'' := skipSpace_length afterValue
      have here : ∀ items, value = .array items → items.length ≤ cs.length := by
        rintro items rfl
        exact bounded.mono (by omega)
      simp only at read
      split at read
      · next found'' =>
        rw [found'', List.length_cons] at space''
        cases read
        exact ⟨by omega, by simpa [Bounded] using here⟩
      · next found'' =>
        rw [found'', List.length_cons] at space''
        obtain ⟨⟨members, after⟩, later, same⟩ := Option.bind_eq_some_iff.1 read
        cases same
        obtain ⟨shorter'', others⟩ := ih.members _ _ _ _ later
        refine ⟨by simp only; omega, List.forall_mem_cons.2 ⟨here, ?_⟩⟩
        exact others.mono (by omega)
      · cases read
    · cases read
  · cases read

end ReadsBounded

theorem readsBounded (fuel : Nat) : ReadsBounded fuel := by
  -- The three readers call each other, each with less fuel.
  induction fuel with
  | zero =>
    constructor <;> intro _ _ _ _ read <;> cases read
  | succ fuel ih =>
    exact ⟨fun _ _ _ _ => ih.value_succ, fun _ _ _ _ => ih.items_succ,
      fun _ _ _ _ => ih.members_succ⟩

/-! Texts in UTF-8. -/

/-- A character that has been begun will yield a piece. -/
private def pending : Text.Utf8State → Nat
  | .between => 0
  | .inside .. => 1

private theorem leadOctet_pending (b : Nat) :
    (Text.leadOctet b).1.length + pending (Text.leadOctet b).2 ≤ 1 := by
  fun_cases Text.leadOctet b <;> exact Nat.le_refl 1

private theorem utf8Octet_pending (state : Text.Utf8State) (b : Nat) :
    (Text.utf8Octet state b).1.length + pending (Text.utf8Octet state b).2 ≤ 1 + pending state := by
  cases state with
  | between => exact Nat.le_trans (leadOctet_pending b) (Nat.le_add_right ..)
  | inside more low high bits =>
    unfold Text.utf8Octet
    simp only
    split
    · cases more <;> simp [pending]
    · have lead := leadOctet_pending b
      have both : (Text.leadOctet b).1.length + 1 + pending (Text.leadOctet b).2 ≤ 1 + 1 := by omega
      exact both

private theorem utf8Pieces_length (state : Text.Utf8State) (octets : Octets) :
    (Text.utf8Pieces state octets).length ≤ octets.length + pending state := by
  induction octets generalizing state with
  | nil => cases state <;> simp [Text.utf8Pieces, pending]
  | cons b rest ih =>
    have step := utf8Octet_pending state b.toNat
    have later := ih (Text.utf8Octet state b.toNat).2
    rw [Text.utf8Pieces, List.length_append, List.length_cons]
    omega

private theorem mapM_id_length {pieces : List (Option Char)} {cs : List Char}
    (whole : pieces.mapM id = some cs) : cs.length = pieces.length := by
  induction pieces generalizing cs with
  | nil => cases whole; rfl
  | cons piece rest ih =>
    rw [List.mapM_cons] at whole
    obtain ⟨c, -, whole⟩ := Option.bind_eq_some_iff.1 whole
    obtain ⟨more, later, same⟩ := Option.bind_eq_some_iff.1 whole
    cases same
    rw [List.length_cons, List.length_cons, ih later]

/-- Lists in a text are no longer than it is, and so are those one level down. -/
theorem ofOctets?_bounded {octets : Octets} {value : Json}
    (read : ofOctets? .analyzer octets = some value) : Bounded octets.length value := by
  obtain ⟨cs, decoded, read⟩ := Option.bind_eq_some_iff.1 read
  have shorter : cs.length ≤ octets.length := by
    rw [mapM_id_length decoded]
    exact utf8Pieces_length .between octets
  unfold ofChars? at read
  split at read
  · next found =>
    split at read
    · cases read
      exact ((readsBounded _).value _ _ _ _ found).2.mono shorter
    · cases read
  · cases read

end CallGraph.Json
