import CallGraph.Json.Reader
import CallGraph.Json.Writer
import CallGraph.Proofs.Text.Decimal

/-! Strings and numbers in JSON. Each is read back from where it was written,
and what follows it is left to be read. -/
namespace CallGraph.Json

/-! White space. -/

theorem skipSpace_append {gap cs : List Char} (blank : ∀ c ∈ gap, isSpace c = true) :
    skipSpace (gap ++ cs) = skipSpace cs :=
  List.dropWhile_append_of_pos blank

theorem skipSpace_cons {c : Char} (cs : List Char) (dark : isSpace c = false) :
    skipSpace (c :: cs) = c :: cs := by
  simp [skipSpace, dark]

theorem break_blank (layout : Layout) (depth : Nat) : ∀ c ∈ layout.break depth, isSpace c = true := by
  cases layout with
  | compact => simp [Layout.break]
  | indented =>
    simp only [Layout.break, List.mem_cons, List.mem_replicate]
    rintro c (rfl | ⟨-, rfl⟩) <;> rfl

/-! Strings. -/

private theorem hexPadded_control : ∀ n < 0x20, ∃ a b c d,
    Text.hexPadded 4 n = [a, b, c, d] ∧ hex4? a b c d = some n := by
  have padded : ∀ n < 0x20, Text.hexPadded 4 n = ['0', '0', Nat.digitChar (n / 16), Nat.digitChar (n % 16)] ∧
      hex4? '0' '0' (Nat.digitChar (n / 16)) (Nat.digitChar (n % 16)) = some n := by decide +kernel
  exact fun n control => ⟨_, _, _, _, padded n control⟩

theorem readChars_writeChar (acc : List Char) (c : Char) (more : List Char) :
    readChars acc (writeChar c ++ more) = readChars (c :: acc) more := by
  unfold writeChar
  split
  all_goals try rfl
  next quote backslash _ _ _ _ _ =>
    by_cases control : c.toNat < 0x20
    · obtain ⟨h₁, h₂, h₃, h₄, padded, read⟩ := hexPadded_control c.toNat control
      have noHigh : ¬ (0xD800 ≤ c.toNat ∧ c.toNat < 0xDC00) := by omega
      have noLow : ¬ (0xDC00 ≤ c.toNat ∧ c.toNat < 0xE000) := by omega
      rw [if_pos control, padded]
      simp only [List.cons_append, List.nil_append, readChars, read, if_neg noHigh, if_neg noLow,
        Char.ofNat_toNat]
    · rw [if_neg control, List.singleton_append, readChars.eq_def]
      split
      · next same => cases same
      · next same => exact absurd (List.cons.inj same).1 quote
      · next same => exact absurd (List.cons.inj same).1 backslash
      · next same => exact absurd (List.cons.inj same).1 backslash
      · next same =>
        obtain ⟨rfl, rfl⟩ := List.cons.inj same
        rw [if_neg control]

theorem readChars_flatMap (acc text rest : List Char) :
    readChars acc (text.flatMap writeChar ++ '"' :: rest) = some (acc.reverse ++ text, rest) := by
  induction text generalizing acc with
  | nil => simp [readChars]
  | cons c text ih =>
    rw [List.flatMap_cons, List.append_assoc, readChars_writeChar, ih]
    simp

theorem readChars_writeString (text : String) (rest : List Char) :
    ∃ inside, writeString text ++ rest = '"' :: inside ∧
      readChars [] inside = some (text.toList, rest) := by
  refine ⟨text.toList.flatMap writeChar ++ '"' :: rest, ?_, readChars_flatMap [] _ _⟩
  simp [writeString]

/-! Numbers. -/

/-- What may follow a value: a blank, or the end of the item or container. -/
def closes (c : Char) : Bool := isSpace c || c == ',' || c == ']' || c == '\x7d'

/-- A value may end where the text goes on so. -/
def Ends (rest : List Char) : Prop := ∀ c ∈ rest.head?, closes c = true

private theorem closes_apart {c : Char} (closing : closes c = true) :
    Text.isAsciiDigit c = false ∧ c ≠ '.' ∧ c ≠ 'e' ∧ c ≠ 'E' := by
  simp only [closes, isSpace, Bool.or_eq_true, beq_iff_eq] at closing
  rcases closing with (((((rfl | rfl) | rfl) | rfl) | rfl) | rfl) | rfl <;> decide

theorem spanDigits_append {digits rest : List Char}
    (ascii : ∀ c ∈ digits, Text.isAsciiDigit c = true) (ends : Ends rest) :
    spanDigits (digits ++ rest) = (digits, rest) := by
  have stops : rest.takeWhile Text.isAsciiDigit = [] ∧ rest.dropWhile Text.isAsciiDigit = rest := by
    cases rest with
    | nil => exact ⟨rfl, rfl⟩
    | cons c more =>
      have apart := (closes_apart (ends c rfl)).1
      simp [apart]
  rw [spanDigits, List.takeWhile_append_of_pos ascii, List.dropWhile_append_of_pos ascii, stops.1,
    stops.2, List.append_nil]

theorem readFraction_none {rest : List Char} (ends : Ends rest) : readFraction rest = some ([], rest) := by
  cases rest with
  | nil => rfl
  | cons c more =>
    have apart := (closes_apart (ends c rfl)).2.1
    rw [readFraction.eq_def]
    split
    · next same => exact absurd (List.cons.inj same).1 apart
    · rfl

theorem readExponent_none {rest : List Char} (ends : Ends rest) : readExponent rest = some (none, rest) := by
  cases rest with
  | nil => rfl
  | cons c more =>
    obtain ⟨-, -, lower, upper⟩ := closes_apart (ends c rfl)
    simp [readExponent, lower, upper]

/-- Digits without a needless zero in front are read after their sign, if they
form a whole number that a document can hold. -/
theorem readMagnitude_digits (negative : Bool) {digits : List Char} {value : Int}
    (ascii : ∀ c ∈ digits, Text.isAsciiDigit c = true) (nonempty : digits ≠ [])
    (lead : 1 < digits.length → digits.head? ≠ some '0')
    (same : (if negative then -(natOfDigits digits : Int) else natOfDigits digits) = value)
    (fits : fitsDocument value = true) {rest : List Char} (ends : Ends rest) :
    readMagnitude .strict negative (digits ++ rest) = some (.int value, rest) := by
  have started : (digits.isEmpty || decide (digits.length > 1) && digits.head? == some '0') = false := by
    simpa [nonempty] using lead
  have whole : intValue? .strict negative digits = some (.int value) := by
    simp [intValue?, same, fits, Rules.strict]
  simp [readMagnitude, spanDigits_append ascii ends, started, readFraction_none ends,
    readExponent_none ends, whole]

/-- So is a number as it is written. -/
theorem readMagnitude_repr (negative : Bool) {n : Nat} {value : Int}
    (same : (if negative then -(n : Int) else n) = value) (fits : fitsDocument value = true)
    {rest : List Char} (ends : Ends rest) :
    readMagnitude .strict negative (n.repr.toList ++ rest) = some (.int value, rest) := by
  have magnitude : natOfDigits n.repr.toList = n := Text.ofDigits_repr n
  refine readMagnitude_digits negative (fun _ => Text.isAsciiDigit_of_mem_repr)
    (Text.repr_toList_ne_nil n) (fun long => ?_) (by rw [magnitude, same]) fits ends
  apply Text.repr_head_ne_zero
  intro zero
  subst zero
  exact absurd long (by decide)

private theorem readNamed_number {c : Char} (cs : List Char)
    (start : Text.isAsciiDigit c = true ∨ c = '-') : readNamed literals (c :: cs) = none := by
  have apart : c ≠ 'n' ∧ c ≠ 't' ∧ c ≠ 'f' := by
    refine ⟨?_, ?_, ?_⟩ <;> rintro rfl <;> exact absurd start (by decide)
  simp [readNamed, literals, Text.afterStart?, Ne.symm apart.1, Ne.symm apart.2.1, Ne.symm apart.2.2]

private theorem readScalar_minus (cs : List Char) :
    readScalar .strict ('-' :: cs) = readMagnitude .strict true cs := by
  have unnamed : readNamed (literals ++ []) ('-' :: cs) = none := readNamed_number cs (.inr rfl)
  simp only [readScalar, Rules.strict, Bool.false_eq_true, if_false, unnamed]

private theorem readScalar_digit {c : Char} (cs : List Char) (digit : Text.isAsciiDigit c = true) :
    readScalar .strict (c :: cs) = readMagnitude .strict false (c :: cs) := by
  have unnamed : readNamed (literals ++ []) (c :: cs) = none := readNamed_number cs (.inl digit)
  have unsigned : c ≠ '-' := by
    rintro rfl
    exact absurd digit (by decide)
  simp only [readScalar, Rules.strict, Bool.false_eq_true, if_false, unnamed]
  split
  · next same => exact absurd (List.cons.inj same).1 unsigned
  · rfl

/-- An integer is read as it is written. -/
theorem readScalar_repr {i : Int} (fits : fitsDocument i = true) {rest : List Char}
    (ends : Ends rest) : readScalar .strict (i.repr.toList ++ rest) = some (.int i, rest) := by
  cases i with
  | ofNat n =>
    have read := readMagnitude_repr false (n := n) rfl fits ends
    have start : ∀ c ∈ n.repr.toList, Text.isAsciiDigit c = true := fun _ =>
      Text.isAsciiDigit_of_mem_repr
    rw [show (Int.ofNat n).repr = n.repr from rfl]
    cases digits : n.repr.toList with
    | nil => exact absurd digits (Text.repr_toList_ne_nil n)
    | cons c more =>
      rw [digits] at read start
      exact (readScalar_digit _ (start c List.mem_cons_self)).trans read
  | negSucc n =>
    have read := readMagnitude_repr true (n := n + 1) rfl fits ends
    rw [Text.repr_negSucc]
    exact (readScalar_minus _).trans read

end CallGraph.Json
