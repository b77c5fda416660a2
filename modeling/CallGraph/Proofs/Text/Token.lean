import CallGraph.Proofs.Text.Percent

/-! The grammar of tokens. A token spells octets, each one by a plain character or
by an escape, and the octets are read as UTF-8. What is checked of tokens and how
they are read is given here without looking at how checking and reading go. -/
namespace CallGraph.Text

/-- The unreserved characters of URIs, and the dollar sign. -/
def plainChars : List Char :=
  "ABCDEFGHIJKLMNOPQRSTUVWXYZabcdefghijklmnopqrstuvwxyz0123456789-._~$".toList

/-- The text spells the octets: a plain character stands for its own octet, and
any octet may be escaped. -/
inductive Spells : List Char → Octets → Prop where
  | nil : Spells [] []
  | plain {c : Char} {cs : List Char} {octets : Octets} (mem : c ∈ plainChars)
      (rest : Spells cs octets) : Spells (c :: cs) (UInt8.ofNat c.toNat :: octets)
  | escape (b : UInt8) {cs : List Char} {octets : Octets} (rest : Spells cs octets) :
      Spells (escapeOctet b ++ cs) (b :: octets)

/-- The text spells the UTF-8 form of the name. Where the octets are ill-formed,
U+FFFD stands in the name. -/
def Encodes (cs : List Char) (name : String) : Prop :=
  ∃ octets, Spells cs octets ∧ name = String.ofList (decodeUtf8Lossy octets)

/-- The text is a token for the name. -/
def Denotes (token : List Char) (name : String) : Prop := token ≠ [] ∧ Encodes token name

/-! Characters. -/

/-- A property of ASCII characters can be looked up character by character. -/
theorem forall_ascii {p : Char → Prop} (table : ∀ n < 0x80, p (Char.ofNat n)) {c : Char}
    (ascii : c.toNat < 0x80) : p c := by
  have here := table c.toNat ascii
  rwa [Char.ofNat_toNat] at here

theorem isPlain_iff {c : Char} : isPlain c = true ↔ c ∈ plainChars := by
  have listed : plainChars.all isPlain = true := by decide +kernel
  refine ⟨fun plain => ?_, List.all_eq_true.1 listed c⟩
  exact forall_ascii (p := fun c => isPlain c = true → c ∈ plainChars) (by decide +kernel)
    (isPlain_ascii plain) plain

theorem exists_upperHex {c : Char} (hex : isUpperHex c = true) : ∃ n < 16, upperHex n = c :=
  forall_ascii (p := fun c => isUpperHex c = true → ∃ n < 16, upperHex n = c)
    (by decide +kernel) (isPlain_ascii (isPlain_of_isUpperHex hex)) hex

/-- Two upper-case hexadecimal digits are those of an octet. -/
theorem exists_escapeOctet {h l : Char} (high : isUpperHex h = true) (low : isUpperHex l = true) :
    ∃ b, escapeOctet b = ['%', h, l] := by
  obtain ⟨m, mSmall, rfl⟩ := exists_upperHex high
  obtain ⟨n, nSmall, rfl⟩ := exists_upperHex low
  have value : (UInt8.ofNat (16 * m + n)).toNat = 16 * m + n := by
    rw [UInt8.toNat_ofNat']
    exact Nat.mod_eq_of_lt (by omega)
  refine ⟨UInt8.ofNat (16 * m + n), ?_⟩
  rw [escapeOctet, value, show (16 * m + n) / 16 = m by omega, show (16 * m + n) % 16 = n by omega]

/-! Checking and reading follow the grammar. -/

/-- A text that is checked spells what it is unescaped to, and nothing else. -/
theorem spells_iff {cs : List Char} {octets : Octets} :
    Spells cs octets ↔ isEncoded cs = true ∧ unescapeOctets cs = octets := by
  constructor
  · intro spells
    induction spells with
    | nil => exact ⟨rfl, rfl⟩
    | @plain c cs octets mem _ ih =>
      have plain := isPlain_iff.2 mem
      have noEscape : c ≠ '%' := by
        rintro rfl
        exact absurd plain (by decide)
      rw [isEncoded_cons plain, unescapeOctets_cons noEscape, ih.2]
      exact ⟨ih.1, rfl⟩
    | @escape b cs octets _ ih =>
      rw [unescapeOctets_escapeOctet, ih.2]
      exact ⟨isEncoded_append (isEncoded_escapeOctet b) ih.1, rfl⟩
  · rintro ⟨encoded, rfl⟩
    fun_induction isEncoded cs with
    | case1 => exact .nil
    | case2 h l rest ih =>
      simp only [Bool.and_eq_true] at encoded
      obtain ⟨b, escaped⟩ := exists_escapeOctet encoded.1.1 encoded.1.2
      have whole : '%' :: h :: l :: rest = escapeOctet b ++ rest := by rw [escaped]; rfl
      rw [whole, unescapeOctets_escapeOctet]
      exact .escape b (ih encoded.2)
    | case3 c rest _ ih =>
      simp only [Bool.and_eq_true] at encoded
      have noEscape : c ≠ '%' := by
        rintro rfl
        exact absurd encoded.1 (by decide)
      rw [unescapeOctets_cons noEscape]
      exact .plain (isPlain_iff.1 encoded.1) (ih encoded.2)

theorem encodes_iff {cs : List Char} {name : String} :
    Encodes cs name ↔ isEncoded cs = true ∧ name = String.ofList (decodeEscapes cs) := by
  constructor
  · rintro ⟨octets, spells, rfl⟩
    obtain ⟨encoded, rfl⟩ := spells_iff.1 spells
    exact ⟨encoded, by rw [decodeEscapes_ascii (isEncoded_ascii encoded)]⟩
  · rintro ⟨encoded, rfl⟩
    exact ⟨_, spells_iff.2 ⟨encoded, rfl⟩, by rw [decodeEscapes_ascii (isEncoded_ascii encoded)]⟩

/-- A name is encoded by its written form. -/
theorem encodes_encodeName (name : String) : Encodes (encodeName name.toList) name := by
  refine encodes_iff.2 ⟨isEncoded_encodeName _, ?_⟩
  rw [decodeEscapes_encodeName, String.ofList_toList]

theorem denotes_encodeName {name : String} (nonempty : name ≠ "") :
    Denotes (encodeName name.toList) name :=
  ⟨encodeName_ne_nil (by simpa using nonempty), encodes_encodeName name⟩

theorem denotes_iff {token : List Char} {name : String} :
    Denotes token name ↔ isToken token = true ∧ name = String.ofList (decodeEscapes token) := by
  rw [Denotes, encodes_iff, ← and_assoc]
  simp [isToken]

/-- Every token stands for a name that is not empty. -/
theorem Denotes.ne_empty {token : List Char} {name : String} (denotes : Denotes token name) :
    name ≠ "" := by
  obtain ⟨nonempty, octets, spells, rfl⟩ := denotes
  have some : octets ≠ [] := by
    rintro rfl
    cases spells
    exact nonempty rfl
  intro empty
  exact decodeUtf8Lossy_ne_nil some (String.ofList_eq_empty_iff.1 empty)

end CallGraph.Text
