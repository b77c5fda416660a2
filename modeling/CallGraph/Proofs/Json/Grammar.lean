import CallGraph.Proofs.Json.Size
import CallGraph.Proofs.Text.Cut
import Mathlib.Data.List.TakeWhile

/-! The grammar of JSON texts, as a relation between symbols and characters. Every
text that is read as an object is spelled like one. Characters of JSON texts are
white space or lie from U+0020 on. -/
namespace CallGraph.Json

/-! The grammar. -/

/-- White space between tokens. -/
def Gap (cs : List Char) : Prop := ∀ c ∈ cs, isSpace c = true

/-- What stands between the quotes of a string. -/
inductive Inside : List Char → Prop
  | nil : Inside []
  | plain {c : Char} {cs : List Char} (high : 0x20 ≤ c.toNat) (quote : c ≠ '"') (slash : c ≠ '\\')
      (rest : Inside cs) : Inside (c :: cs)
  | escape {e : Char} {cs : List Char} (known : (unescape? e).isSome = true) (rest : Inside cs) :
      Inside ('\\' :: e :: cs)
  | unit {a b c d : Char} {cs : List Char} (hex : (hex4? a b c d).isSome = true)
      (rest : Inside cs) : Inside ('\\' :: 'u' :: a :: b :: c :: d :: cs)

/-- A string with its quotes. -/
inductive IsString : List Char → Prop
  | quoted {cs : List Char} (inside : Inside cs) : IsString ('"' :: cs ++ ['"'])

/-- One digit or more. -/
def Digits (cs : List Char) : Prop := cs ≠ [] ∧ ∀ c ∈ cs, Text.isAsciiDigit c = true

/-- A fraction, which may be left out. -/
inductive IsFraction : List Char → Prop
  | none : IsFraction []
  | some {digits : List Char} (digits_ok : Digits digits) : IsFraction ('.' :: digits)

/-- An exponent, which may be left out. -/
inductive IsExponent : List Char → Prop
  | none : IsExponent []
  | some {e : Char} {sign digits : List Char} (mark : e = 'e' ∨ e = 'E')
      (sign_ok : sign ∈ [[], ['-'], ['+']]) (digits_ok : Digits digits) :
      IsExponent (e :: sign ++ digits)

/-- A number. Only a zero begins with a zero. -/
inductive IsNumber : List Char → Prop
  | spelled {sign whole fraction exponent : List Char} (sign_ok : sign ∈ [[], ['-']])
      (whole_ok : Digits whole) (zero : whole.head? = some '0' → whole.length = 1)
      (fraction_ok : IsFraction fraction) (exponent_ok : IsExponent exponent) :
      IsNumber (sign ++ whole ++ fraction ++ exponent)

/-- What a piece of a text can be spelled as. -/
inductive Symbol where
  | value
  /-- A value with white space around it. -/
  | item
  | member
  /-- One or more of a symbol, with commas between them. -/
  | several (one : Symbol)

/-- The characters spell the symbol. -/
inductive Spells : Symbol → List Char → Prop
  | literal {name : String} (known : name ∈ ["null", "true", "false"]) : Spells .value name.toList
  | number {cs : List Char} (number : IsNumber cs) : Spells .value cs
  | string {cs : List Char} (string : IsString cs) : Spells .value cs
  | emptyArray {gap : List Char} (gap_ok : Gap gap) : Spells .value ('[' :: gap ++ [']'])
  | array {cs : List Char} (items : Spells (.several .item) cs) : Spells .value ('[' :: cs ++ [']'])
  | emptyObject {gap : List Char} (gap_ok : Gap gap) : Spells .value ('\x7b' :: gap ++ ['\x7d'])
  | object {cs : List Char} (members : Spells (.several .member) cs) :
      Spells .value ('\x7b' :: cs ++ ['\x7d'])
  | item {before cs after : List Char} (before_ok : Gap before) (value : Spells .value cs)
      (after_ok : Gap after) : Spells .item (before ++ cs ++ after)
  | member {before name between cs : List Char} (before_ok : Gap before) (name_ok : IsString name)
      (between_ok : Gap between) (item : Spells .item cs) :
      Spells .member (before ++ name ++ between ++ ':' :: cs)
  | one {one : Symbol} {cs : List Char} (last : Spells one cs) : Spells (.several one) cs
  | more {one : Symbol} {cs rest : List Char} (first : Spells one cs)
      (others : Spells (.several one) rest) : Spells (.several one) (cs ++ ',' :: rest)

/-- An object with its braces. -/
inductive IsObject : List Char → Prop
  | empty {gap : List Char} (gap_ok : Gap gap) : IsObject ('\x7b' :: gap ++ ['\x7d'])
  | members {cs : List Char} (members : Spells (.several .member) cs) :
      IsObject ('\x7b' :: cs ++ ['\x7d'])

/-- A text that holds an object and nothing else. -/
inductive IsObjectText : List Char → Prop
  | spelled {before cs after : List Char} (before_ok : Gap before) (object : IsObject cs)
      (after_ok : Gap after) : IsObjectText (before ++ cs ++ after)

theorem IsObject.spells {cs : List Char} (object : IsObject cs) : Spells .value cs := by
  cases object with
  | empty gap => exact .emptyObject gap
  | members members => exact .object members

section Gap

variable {gap cs : List Char}

theorem Gap.append {gap' : List Char} (gap_ok : Gap gap) (gap_ok' : Gap gap') : Gap (gap ++ gap') :=
  List.forall_mem_append.2 ⟨gap_ok, gap_ok'⟩

/-- White space may stand before an item. -/
theorem Spells.gap_item (gap_ok : Gap gap) (item : Spells .item cs) : Spells .item (gap ++ cs) := by
  cases item with
  | item before value after =>
    rw [List.append_assoc, ← List.append_assoc, ← List.append_assoc]
    exact .item (gap_ok.append before) value after

theorem Spells.gap_member (gap_ok : Gap gap) (member : Spells .member cs) :
    Spells .member (gap ++ cs) := by
  cases member with
  | member before name between item =>
    simp only [← List.append_assoc]
    exact .member (gap_ok.append before) name between item

/-- White space may stand before several of a symbol if it may stand before one. -/
theorem Spells.gap_several {one : Symbol} (each : ∀ cs, Spells one cs → Spells one (gap ++ cs))
    (several : Spells (.several one) cs) : Spells (.several one) (gap ++ cs) := by
  cases several with
  | one last => exact .one (each _ last)
  | more first others =>
    rw [← List.append_assoc]
    exact .more (each _ first) others

end Gap

/-! Characters. -/

/-- White space, or no control character. -/
def Orderly (cs : List Char) : Prop := ∀ c ∈ cs, isSpace c = true ∨ 0x20 ≤ c.toNat

instance (cs : List Char) : Decidable (Orderly cs) := List.decidableBAll _ cs

theorem Orderly.append {cs ds : List Char} (first : Orderly cs) (second : Orderly ds) :
    Orderly (cs ++ ds) :=
  List.forall_mem_append.2 ⟨first, second⟩

theorem Orderly.cons {c : Char} {cs : List Char} (high : 0x20 ≤ c.toNat) (rest : Orderly cs) :
    Orderly (c :: cs) :=
  List.forall_mem_cons.2 ⟨.inr high, rest⟩

theorem Orderly.enclosed {first last : Char} {cs : List Char} (inside : Orderly cs)
    (high : 0x20 ≤ first.toNat) (high' : 0x20 ≤ last.toNat) : Orderly (first :: cs ++ [last]) :=
  (inside.append (.cons high' (List.forall_mem_nil _))).cons high

theorem Gap.orderly {cs : List Char} (gap : Gap cs) : Orderly cs := fun c mem => .inl (gap c mem)

theorem toNat_le {low c : Char} (le : low ≤ c) : low.toNat ≤ c.toNat := le

theorem Digits.orderly {cs : List Char} (digits : Digits cs) : Orderly cs := by
  intro c mem
  have digit := digits.2 c mem
  rw [Text.isAsciiDigit, Bool.and_eq_true, decide_eq_true_eq] at digit
  exact .inr (Nat.le_trans (by decide) (toNat_le digit.1))

theorem high_of_unescape? {e : Char} (known : (unescape? e).isSome = true) : 0x20 ≤ e.toNat := by
  unfold unescape? at known
  split at known
  case h_9 => cases known
  all_goals decide

theorem high_of_hexValue? {c : Char} {n : Nat} (hex : Text.hexValue? c = some n) :
    0x20 ≤ c.toNat := by
  unfold Text.hexValue? at hex
  split at hex
  · next digit => exact Nat.le_trans (by decide) (toNat_le digit.1)
  · split at hex
    · next small => exact Nat.le_trans (by decide) (toNat_le small.1)
    · split at hex
      · next capital => exact Nat.le_trans (by decide) (toNat_le capital.1)
      · cases hex

theorem high_of_hex4? {a b c d : Char} (hex : (hex4? a b c d).isSome = true) :
    0x20 ≤ a.toNat ∧ 0x20 ≤ b.toNat ∧ 0x20 ≤ c.toNat ∧ 0x20 ≤ d.toNat := by
  obtain ⟨n, hex⟩ := Option.isSome_iff_exists.1 hex
  obtain ⟨_, first, hex⟩ := Option.bind_eq_some_iff.1 hex
  obtain ⟨_, second, hex⟩ := Option.bind_eq_some_iff.1 hex
  obtain ⟨_, third, hex⟩ := Option.bind_eq_some_iff.1 hex
  obtain ⟨_, fourth, -⟩ := Option.bind_eq_some_iff.1 hex
  exact ⟨high_of_hexValue? first, high_of_hexValue? second, high_of_hexValue? third,
    high_of_hexValue? fourth⟩

theorem Inside.orderly {cs : List Char} (inside : Inside cs) : Orderly cs := by
  induction inside with
  | nil => exact List.forall_mem_nil _
  | plain high _ _ _ ih => exact ih.cons high
  | escape known _ ih => exact (ih.cons (high_of_unescape? known)).cons (by decide)
  | unit hex _ ih =>
    obtain ⟨a, b, c, d⟩ := high_of_hex4? hex
    exact (((((ih.cons d).cons c).cons b).cons a).cons (by decide)).cons (by decide)

theorem IsString.orderly {cs : List Char} (string : IsString cs) : Orderly cs := by
  obtain ⟨inside⟩ := string
  exact inside.orderly.enclosed (by decide) (by decide)

theorem IsFraction.orderly {cs : List Char} (fraction : IsFraction cs) : Orderly cs := by
  cases fraction with
  | none => exact List.forall_mem_nil _
  | some digits => exact digits.orderly.cons (by decide)

theorem IsExponent.orderly {cs : List Char} (exponent : IsExponent cs) : Orderly cs := by
  cases exponent with
  | none => exact List.forall_mem_nil _
  | @some e sign digits mark sign_ok digits_ok =>
    have mark_high : 0x20 ≤ e.toNat := by
      rcases mark with rfl | rfl <;> decide
    have sign_high : Orderly sign := by
      simp only [List.mem_cons, List.not_mem_nil, or_false] at sign_ok
      rcases sign_ok with rfl | rfl | rfl <;> decide
    exact (sign_high.append digits_ok.orderly).cons mark_high

theorem IsNumber.orderly {cs : List Char} (number : IsNumber cs) : Orderly cs := by
  obtain @⟨sign, _, _, _, sign_ok, whole_ok, -, fraction_ok, exponent_ok⟩ := number
  have sign_high : Orderly sign := by
    simp only [List.mem_cons, List.not_mem_nil, or_false] at sign_ok
    rcases sign_ok with rfl | rfl <;> decide
  exact ((sign_high.append whole_ok.orderly).append fraction_ok.orderly).append exponent_ok.orderly

theorem Spells.orderly {symbol : Symbol} {cs : List Char} (spells : Spells symbol cs) :
    Orderly cs := by
  induction spells with
  | @literal name known =>
    simp only [List.mem_cons, List.not_mem_nil, or_false] at known
    rcases known with rfl | rfl | rfl <;> decide
  | number number => exact number.orderly
  | string string => exact string.orderly
  | emptyArray gap => exact gap.orderly.enclosed (by decide) (by decide)
  | array _ ih => exact ih.enclosed (by decide) (by decide)
  | emptyObject gap => exact gap.orderly.enclosed (by decide) (by decide)
  | object _ ih => exact ih.enclosed (by decide) (by decide)
  | item before _ after ih => exact (before.orderly.append ih).append after.orderly
  | member before name between _ ih =>
    exact ((before.orderly.append name.orderly).append between.orderly).append (ih.cons (by decide))
  | one _ ih => exact ih
  | more _ _ first others => exact first.append (others.cons (by decide))

theorem IsObjectText.orderly {cs : List Char} (text : IsObjectText cs) : Orderly cs := by
  obtain ⟨before, object, after⟩ := text
  exact (before.orderly.append object.spells.orderly).append after.orderly

/-! Reading. -/

theorem skipSpace_spells (cs : List Char) : ∃ gap, Gap gap ∧ cs = gap ++ skipSpace cs :=
  ⟨cs.takeWhile isSpace, fun _ mem => List.mem_takeWhile_imp mem,
    List.takeWhile_append_dropWhile.symm⟩

theorem readChars_spells {acc cs text rest : List Char}
    (read : readChars acc cs = some (text, rest)) :
    ∃ inside, Inside inside ∧ cs = inside ++ '"' :: rest := by
  fun_induction readChars acc cs with
  | case2 =>
    cases read
    exact ⟨[], .nil, rfl⟩
  | case5 _ _ _ _ _ _ hex _ _ _ _ _ _ _ hex' _ ih =>
    obtain ⟨inside, spelled, rfl⟩ := ih read
    exact ⟨_, .unit (Option.isSome_of_eq_some hex)
      (.unit (Option.isSome_of_eq_some hex') spelled), rfl⟩
  | case9 _ _ _ _ _ _ _ hex _ _ ih =>
    obtain ⟨inside, spelled, rfl⟩ := ih read
    exact ⟨_, .unit (Option.isSome_of_eq_some hex) spelled, rfl⟩
  | case10 _ _ _ _ _ known ih =>
    obtain ⟨inside, spelled, rfl⟩ := ih read
    exact ⟨_, .escape (Option.isSome_of_eq_some known) spelled, rfl⟩
  | case13 _ c rest' quote _ slash high ih =>
    obtain ⟨inside, spelled, rfl⟩ := ih read
    have noSlash : c ≠ '\\' := by
      rintro rfl
      cases inside with
      | nil => exact slash _ _ rfl rfl
      | cons e inside => exact slash _ _ rfl rfl
    exact ⟨c :: inside, .plain (Nat.le_of_not_lt high) quote noSlash spelled, rfl⟩
  | _ => cases read

theorem spanDigits_spells {cs digits rest : List Char} (span : spanDigits cs = (digits, rest))
    (nonempty : digits ≠ []) : Digits digits ∧ cs = digits ++ rest := by
  obtain ⟨rfl, rfl⟩ := Prod.mk.inj span
  exact ⟨⟨nonempty, fun _ mem => List.mem_takeWhile_imp mem⟩, List.takeWhile_append_dropWhile.symm⟩

theorem readFraction_spells {cs digits rest : List Char}
    (read : readFraction cs = some (digits, rest)) :
    ∃ fraction, IsFraction fraction ∧ cs = fraction ++ rest := by
  unfold readFraction at read
  split at read
  · next cs =>
    split at read
    · cases read
    · next other =>
      have found := Option.some.inj read
      have nonempty : digits ≠ [] := by
        rintro rfl
        exact other rest found
      obtain ⟨spelled, rfl⟩ := spanDigits_spells found nonempty
      exact ⟨_, .some spelled, rfl⟩
  · cases read
    exact ⟨[], .none, rfl⟩

theorem readExponent_spells {cs rest : List Char} {exponent? : Option Int}
    (read : readExponent cs = some (exponent?, rest)) :
    ∃ exponent, IsExponent exponent ∧ cs = exponent ++ rest := by
  unfold readExponent at read
  split at read
  · next e cs =>
    split at read
    · next mark =>
      simp only at read
      split at read
      · cases read
      · next digits after other found =>
        cases read
        have nonempty : digits ≠ [] := by
          rintro rfl
          exact other rfl
        obtain ⟨spelled, split⟩ := spanDigits_spells found nonempty
        have signed : ∃ sign ∈ [[], ['-'], ['+']], cs = sign ++ (digits ++ rest) := by
          rw [← split]
          split
          · exact ⟨['-'], by simp, rfl⟩
          · exact ⟨['+'], by simp, rfl⟩
          · exact ⟨[], by simp, rfl⟩
        obtain ⟨sign, sign_ok, rfl⟩ := signed
        exact ⟨_, .some mark sign_ok spelled, by simp⟩
    · cases read
      exact ⟨[], .none, rfl⟩
  · cases read
    exact ⟨[], .none, rfl⟩

theorem readMagnitude_spells {rules : Rules} {negative : Bool} {cs rest : List Char} {value : Json}
    (read : readMagnitude rules negative cs = some (value, rest)) :
    ∃ number, cs = number ++ rest ∧ ∀ sign ∈ [[], ['-']], IsNumber (sign ++ number) := by
  unfold readMagnitude at read
  obtain ⟨whole, afterWhole, spanned⟩ : ∃ whole after, spanDigits cs = (whole, after) := ⟨_, _, rfl⟩
  rw [spanned] at read
  simp only at read
  split at read
  · cases read
  · next found =>
    simp only [Bool.or_eq_true, List.isEmpty_iff, Bool.and_eq_true, decide_eq_true_eq,
      beq_iff_eq, not_or, not_and] at found
    obtain ⟨nonempty, zero⟩ := found
    obtain ⟨digits, rfl⟩ := spanDigits_spells spanned nonempty
    obtain ⟨⟨_, afterFraction⟩, first, read⟩ := Option.bind_eq_some_iff.1 read
    obtain ⟨⟨exponent?, afterExponent⟩, second, read⟩ := Option.bind_eq_some_iff.1 read
    obtain rfl : afterExponent = rest := by
      split at read
      · obtain ⟨_, -, same⟩ := Option.bind_eq_some_iff.1 read
        exact congrArg Prod.snd (Option.some.inj same)
      · obtain ⟨_, -, same⟩ := Option.bind_eq_some_iff.1 read
        exact congrArg Prod.snd (Option.some.inj same)
    obtain ⟨fraction, fraction_ok, rfl⟩ := readFraction_spells first
    obtain ⟨exponent, exponent_ok, rfl⟩ := readExponent_spells second
    have one : whole.head? = some '0' → whole.length = 1 := fun here =>
      Nat.le_antisymm (Nat.le_of_not_lt fun long => zero long here) (List.length_pos_iff.2 nonempty)
    refine ⟨whole ++ fraction ++ exponent, by simp, fun sign sign_ok => ?_⟩
    rw [← List.append_assoc, ← List.append_assoc]
    exact .spelled sign_ok digits one fraction_ok exponent_ok

theorem readScalar_spells {cs rest : List Char} {value : Json}
    (read : readScalar .strict cs = some (value, rest)) :
    ∃ text, Spells .value text ∧ cs = text ++ rest := by
  unfold readScalar at read
  simp only at read
  split at read
  · next found named =>
    obtain ⟨entry, mem, found⟩ := List.exists_of_findSome?_eq_some named
    obtain ⟨after, cut, same⟩ := Option.map_eq_some_iff.1 found
    obtain rfl : after = rest := by
      rw [Option.some.inj read] at same
      exact congrArg Prod.snd same
    have known : entry.1 ∈ ["null", "true", "false"] :=
      List.mem_map_of_mem (f := Prod.fst) (by simpa [Rules.strict] using mem)
    exact ⟨_, .literal known, Text.eq_append_of_afterStart? cut⟩
  · split at read
    · obtain ⟨number, rfl, spelled⟩ := readMagnitude_spells read
      exact ⟨_, .number (spelled ['-'] (by simp)), rfl⟩
    · obtain ⟨number, rfl, spelled⟩ := readMagnitude_spells read
      exact ⟨_, .number (spelled [] (by simp)), rfl⟩

/-! Objects are not read as anything else. -/

theorem floatValue?_ne_object {rules : Rules} {double : Double} {members : List (String × Json)} :
    floatValue? rules double ≠ some (.object members) := by
  unfold floatValue?
  split <;> simp

theorem intValue?_ne_object {rules : Rules} {negative : Bool} {digits : List Char}
    {members : List (String × Json)} :
    intValue? rules negative digits ≠ some (.object members) := by
  unfold intValue?
  simp only
  generalize (if negative = true then -(natOfDigits digits : Int) else natOfDigits digits) = number
  split
  · split
    · exact fun same => nomatch Option.some.inj same
    · exact nofun
  · split
    · exact fun same => nomatch Option.some.inj same
    · exact floatValue?_ne_object

theorem readMagnitude_ne_object {rules : Rules} {negative : Bool} {cs rest : List Char}
    {members : List (String × Json)} :
    readMagnitude rules negative cs ≠ some (.object members, rest) := by
  intro read
  unfold readMagnitude at read
  simp only at read
  split at read
  · cases read
  · obtain ⟨_, -, read⟩ := Option.bind_eq_some_iff.1 read
    obtain ⟨_, -, read⟩ := Option.bind_eq_some_iff.1 read
    split at read
    · obtain ⟨_, number, same⟩ := Option.bind_eq_some_iff.1 read
      cases same
      exact intValue?_ne_object number
    · obtain ⟨_, number, same⟩ := Option.bind_eq_some_iff.1 read
      cases same
      exact floatValue?_ne_object number

theorem readScalar_ne_object {cs rest : List Char} {members : List (String × Json)} :
    readScalar .strict cs ≠ some (.object members, rest) := by
  intro read
  unfold readScalar at read
  simp only at read
  split at read
  · next found named =>
    obtain ⟨entry, mem, found⟩ := List.exists_of_findSome?_eq_some named
    obtain ⟨after, -, same⟩ := Option.map_eq_some_iff.1 found
    have object : entry.2 = .object members := by
      rw [Option.some.inj read] at same
      exact congrArg Prod.fst same
    have none : ∀ entry ∈ literals, ∀ members, entry.2 ≠ .object members := by
      simp [literals]
    exact none entry (by simpa [Rules.strict] using mem) members object
  · split at read <;> exact readMagnitude_ne_object read

/-! Values. -/

/-- What reading takes of a text spells what is read. -/
structure ReadsSpelled (fuel : Nat) : Prop where
  value : ∀ depth cs value rest, readValue .strict fuel depth cs = some (value, rest) →
    ∃ gap text, Gap gap ∧ Spells .value text ∧
      (∀ members, value = .object members → IsObject text) ∧ cs = gap ++ text ++ rest
  items : ∀ depth cs items rest, readItems .strict fuel depth cs = some (items, rest) →
    ∃ text, Spells (.several .item) text ∧ cs = text ++ ']' :: rest
  members : ∀ depth cs members rest, readMembers .strict fuel depth cs = some (members, rest) →
    ∃ text, Spells (.several .member) text ∧ cs = text ++ '\x7d' :: rest

namespace ReadsSpelled

variable {fuel : Nat}

private theorem value_succ (ih : ReadsSpelled fuel) {depth : Nat} {cs rest : List Char}
    {value : Json} (read : readValue .strict (fuel + 1) depth cs = some (value, rest)) :
    ∃ gap text, Gap gap ∧ Spells .value text ∧
      (∀ members, value = .object members → IsObject text) ∧ cs = gap ++ text ++ rest := by
  obtain ⟨gap, gap_ok, spaced⟩ := skipSpace_spells cs
  rw [readValue.eq_def] at read
  simp only at read
  split at read
  · next inside found =>
    obtain ⟨⟨text, after⟩, chars, same⟩ := Option.map_eq_some_iff.1 read
    cases same
    obtain ⟨inside, inside_ok, rfl⟩ := readChars_spells chars
    refine ⟨gap, _, gap_ok, .string (.quoted inside_ok), by rintro _ ⟨⟩, ?_⟩
    rw [spaced, found]
    simp
  · next inside found =>
    obtain ⟨gap', gap_ok', spaced'⟩ := skipSpace_spells inside
    rw [found, spaced'] at spaced
    split at read
    · next found' =>
      cases read
      refine ⟨gap, _, gap_ok, .emptyArray gap_ok', by rintro _ ⟨⟩, ?_⟩
      rw [spaced, found']
      simp
    · split at read
      · obtain ⟨⟨items, after⟩, later, same⟩ := Option.map_eq_some_iff.1 read
        cases same
        obtain ⟨text, spelled, split⟩ := ih.items _ _ _ _ later
        have spelled := spelled.gap_several fun _ => .gap_item gap_ok'
        refine ⟨gap, _, gap_ok, .array spelled, by rintro _ ⟨⟩, ?_⟩
        rw [spaced, split]
        simp
      · cases read
  · next inside found =>
    obtain ⟨gap', gap_ok', spaced'⟩ := skipSpace_spells inside
    rw [found, spaced'] at spaced
    split at read
    · next found' =>
      cases read
      refine ⟨gap, _, gap_ok, .emptyObject gap_ok', fun _ _ => .empty gap_ok', ?_⟩
      rw [spaced, found']
      simp
    · split at read
      · obtain ⟨⟨members, after⟩, later, same⟩ := Option.map_eq_some_iff.1 read
        cases same
        obtain ⟨text, spelled, split⟩ := ih.members _ _ _ _ later
        have spelled := spelled.gap_several fun _ => .gap_member gap_ok'
        refine ⟨gap, _, gap_ok, .object spelled, fun _ _ => .members spelled, ?_⟩
        rw [spaced, split]
        simp
      · cases read
  · obtain ⟨text, spelled, split⟩ := readScalar_spells read
    refine ⟨gap, text, gap_ok, spelled, ?_, by rw [List.append_assoc, ← split, ← spaced]⟩
    rintro members rfl
    exact absurd read readScalar_ne_object

private theorem items_succ (ih : ReadsSpelled fuel) {depth : Nat} {cs rest : List Char}
    {items : List Json} (read : readItems .strict (fuel + 1) depth cs = some (items, rest)) :
    ∃ text, Spells (.several .item) text ∧ cs = text ++ ']' :: rest := by
  rw [readItems] at read
  obtain ⟨⟨item, after⟩, first, read⟩ := Option.bind_eq_some_iff.1 read
  obtain ⟨gap, text, gap_ok, spelled, -, cut⟩ := ih.value _ _ _ _ first
  obtain ⟨gap', gap_ok', spaced⟩ := skipSpace_spells after
  have item := Spells.item gap_ok spelled gap_ok'
  simp only at read
  split at read
  · next found =>
    cases read
    rw [found] at spaced
    exact ⟨_, .one item, by rw [cut, spaced]; simp⟩
  · next found =>
    obtain ⟨⟨more, rest'⟩, later, same⟩ := Option.bind_eq_some_iff.1 read
    cases same
    obtain ⟨others, othersSpelled, cut'⟩ := ih.items _ _ _ _ later
    rw [found, cut'] at spaced
    exact ⟨_, .more item othersSpelled, by rw [cut, spaced]; simp⟩
  · cases read

private theorem members_succ (ih : ReadsSpelled fuel) {depth : Nat} {cs rest : List Char}
    {members : List (String × Json)}
    (read : readMembers .strict (fuel + 1) depth cs = some (members, rest)) :
    ∃ text, Spells (.several .member) text ∧ cs = text ++ '\x7d' :: rest := by
  obtain ⟨gap, gap_ok, spaced⟩ := skipSpace_spells cs
  rw [readMembers] at read
  split at read
  · next found =>
    obtain ⟨⟨name, afterName⟩, chars, read⟩ := Option.bind_eq_some_iff.1 read
    obtain ⟨inside, inside_ok, cut⟩ := readChars_spells chars
    obtain ⟨between, between_ok, spaced'⟩ := skipSpace_spells afterName
    simp only at read
    split at read
    · next found' =>
      obtain ⟨⟨value, afterValue⟩, first, read⟩ := Option.bind_eq_some_iff.1 read
      obtain ⟨before, text, before_ok, spelled, -, cut'⟩ := ih.value _ _ _ _ first
      obtain ⟨after, after_ok, spaced''⟩ := skipSpace_spells afterValue
      have member := Spells.member gap_ok (.quoted inside_ok) between_ok
        (.item before_ok spelled after_ok)
      rw [found, cut, spaced', found', cut'] at spaced
      simp only at read
      split at read
      · next found'' =>
        cases read
        rw [spaced'', found''] at spaced
        exact ⟨_, .one member, by rw [spaced]; simp⟩
      · next found'' =>
        obtain ⟨⟨members, after⟩, later, same⟩ := Option.bind_eq_some_iff.1 read
        cases same
        obtain ⟨others, othersSpelled, cut''⟩ := ih.members _ _ _ _ later
        rw [spaced'', found'', cut''] at spaced
        exact ⟨_, .more member othersSpelled, by rw [spaced]; simp⟩
      · cases read
    · cases read
  · cases read

end ReadsSpelled

theorem readsSpelled (fuel : Nat) : ReadsSpelled fuel := by
  -- The three readers call each other, each with less fuel.
  induction fuel with
  | zero =>
    constructor <;> intro _ _ _ _ read <;> cases read
  | succ fuel ih =>
    exact ⟨fun _ _ _ _ => ih.value_succ, fun _ _ _ _ => ih.items_succ,
      fun _ _ _ _ => ih.members_succ⟩

/-- What is read as an object is spelled like one. -/
theorem isObjectText_of_ofChars? {cs : List Char} {members : List (String × Json)}
    (read : ofChars? .strict cs = some (.object members)) : IsObjectText cs := by
  unfold ofChars? at read
  split at read
  · next value rest found =>
    obtain ⟨before, text, before_ok, -, object, cut⟩ := (readsSpelled _).value _ _ _ _ found
    obtain ⟨after, after_ok, spaced⟩ := skipSpace_spells rest
    split at read
    · next none =>
      obtain rfl := Option.some.inj read
      rw [List.isEmpty_iff.1 none, List.append_nil] at spaced
      rw [cut, spaced]
      exact .spelled before_ok (object members rfl) after_ok
    · cases read
  · cases read

end CallGraph.Json
