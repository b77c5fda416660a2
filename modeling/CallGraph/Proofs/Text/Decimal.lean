import CallGraph.Text.Numeral

/-! Decimal texts. Numbers are written in ASCII digits and without needless
zeros, and such a text is read as the number that was written. -/
namespace CallGraph.Text

theorem isAsciiDigit_of_isDigit {c : Char} (digit : c.isDigit = true) : isAsciiDigit c = true := by
  simpa [isAsciiDigit, Char.isDigit, Char.le_def] using digit

theorem isAsciiDigit_of_mem_repr {n : Nat} {c : Char} (mem : c ∈ n.repr.toList) :
    isAsciiDigit c = true := by
  rw [Nat.toList_repr] at mem
  exact isAsciiDigit_of_isDigit (Nat.isDigit_of_mem_toDigits (by decide) (by decide) mem)

theorem repr_toList_ne_nil (n : Nat) : n.repr.toList ≠ [] := by
  rw [Nat.toList_repr]
  exact Nat.toDigits_ne_nil

theorem ofDigits_repr (n : Nat) :
    ofDigits 10 (n.repr.toList.map fun c => c.toNat - 0x30) = n := by
  have read : Nat.ofDigitChars 10 (Nat.toDigits 10 n) 0 = n := Nat.ofDigitChars_ten_toDigits
  rw [Nat.ofDigitChars_eq_foldl] at read
  rw [ofDigits, List.foldl_map, Nat.toList_repr]
  exact read

/-- Only zero is written with a zero in front. -/
theorem repr_head_ne_zero {n : Nat} (positive : n ≠ 0) : n.repr.toList.head? ≠ some '0' := by
  rw [Nat.toList_repr]
  induction n using Nat.strongRecOn with
  | _ n ih =>
    by_cases small : n < 10
    · rw [Nat.toDigits_of_lt_base small]
      have digits : ∀ d, d < 10 → d ≠ 0 → ([d.digitChar] : List Char).head? ≠ some '0' := by decide
      exact digits n small positive
    · have front := ih (n / 10) (by omega) (by omega)
      rw [Nat.toDigits_of_base_le (by decide) (by omega)]
      cases digits : Nat.toDigits 10 (n / 10) with
      | nil => exact absurd digits Nat.toDigits_ne_nil
      | cons d rest =>
        rw [digits] at front
        exact front

theorem decimalValue?_ascii {c : Char} (digit : isAsciiDigit c = true) :
    decimalValue? c = some (c.toNat - 0x30) := by
  have bounds : '0' ≤ c ∧ c ≤ '9' := by simpa [isAsciiDigit] using digit
  have ascii : c.toNat < 0x80 := by
    have below : c.toNat ≤ '9'.toNat := bounds.2
    exact Nat.lt_of_le_of_lt below (by decide)
  rw [decimalValue?, if_pos ascii, if_pos bounds]

theorem mapM_decimalValue? {digits : List Char} (ascii : ∀ c ∈ digits, isAsciiDigit c = true) :
    digits.mapM decimalValue? = some (digits.map fun c => c.toNat - 0x30) := by
  induction digits with
  | nil => rfl
  | cons c rest ih =>
    rw [List.mapM_cons, decimalValue?_ascii (ascii c List.mem_cons_self),
      ih fun d mem => ascii d (List.mem_cons_of_mem c mem)]
    rfl

theorem allDigits_repr (n : Nat) : allDigits n.repr = true := by
  have digits : ∀ c ∈ n.repr.toList, isDigit c = true := fun c mem => by
    rw [isDigit, decimalValue?_ascii (isAsciiDigit_of_mem_repr mem)]
    rfl
  rw [allDigits, List.all_eq_true.2 digits]
  simp

/-- A number whose text is not too long is read back. -/
theorem numeral_repr {n : Nat} (short : n.repr.toList.length ≤ maxDigits) :
    numeral n.repr.toList = .ok n := by
  rw [numeral, mapM_decimalValue? fun _ => isAsciiDigit_of_mem_repr]
  simp only [List.length_map, short, if_true, ofDigits_repr]

/-! Distinct numbers are written differently. -/

theorem natRepr_injective {a b : Nat} (same : a.repr = b.repr) : a = b := by
  rw [← ofDigits_repr a, ← ofDigits_repr b, same]

theorem repr_negSucc (n : Nat) : (Int.negSucc n).repr.toList = '-' :: (n + 1).repr.toList := by
  rw [show (Int.negSucc n).repr = "-" ++ (n + 1).repr from rfl, String.toList_append]
  rfl

theorem isAsciiDigit_of_mem_intRepr {i : Int} {c : Char} (mem : c ∈ i.repr.toList) :
    isAsciiDigit c = true ∨ c = '-' := by
  cases i with
  | ofNat n => exact .inl (isAsciiDigit_of_mem_repr (n := n) mem)
  | negSucc n =>
    rw [repr_negSucc] at mem
    rcases List.mem_cons.1 mem with sign | digit
    · exact .inr sign
    · exact .inl (isAsciiDigit_of_mem_repr digit)

private theorem repr_ne_minus (n : Nat) (cs : List Char) : n.repr.toList ≠ '-' :: cs := fun same =>
  absurd (isAsciiDigit_of_mem_repr (n := n) (same ▸ List.mem_cons_self)) (by decide)

theorem intRepr_injective {a b : Int} (same : a.repr = b.repr) : a = b := by
  have sameChars := congrArg String.toList same
  cases a with
  | ofNat m =>
    cases b with
    | ofNat n => exact congrArg Int.ofNat (natRepr_injective same)
    | negSucc n => exact absurd (sameChars.trans (repr_negSucc n)) (repr_ne_minus m _)
  | negSucc m =>
    cases b with
    | ofNat n => exact absurd (sameChars.symm.trans (repr_negSucc m)) (repr_ne_minus n _)
    | negSucc n =>
      rw [repr_negSucc, repr_negSucc] at sameChars
      have digits := String.toList_inj.1 (List.cons.inj sameChars).2
      exact congrArg Int.negSucc (Nat.succ.inj (natRepr_injective digits))

end CallGraph.Text
