import CallGraph.Proofs.Text.Utf8
import CallGraph.Text.Percent

/-! Tokens. Written names hold no character that separates the parts of an
identifier, and reading a token written for a name gives the name back. What
is special about the percent sign is that it is no hexadecimal digit: an escape
is therefore read the same way wherever it stands in a text. -/
namespace CallGraph.Text

private theorem upperHex_table : ∀ n < 16,
    isUpperHex (upperHex n) = true ∧ hexValue? (upperHex n) = some n := by
  decide

theorem isUpperHex_upperHex {n : Nat} (small : n < 16) : isUpperHex (upperHex n) = true :=
  (upperHex_table n small).1

theorem hexValue?_upperHex {n : Nat} (small : n < 16) : hexValue? (upperHex n) = some n :=
  (upperHex_table n small).2

/-- The characters that may stand in a token. -/
def isTokenChar (c : Char) : Bool := isPlain c || c == '%'

theorem isPlain_ascii {c : Char} (plain : isPlain c = true) : c.toNat < 0x80 := by
  simp only [isPlain, isAsciiLetter, isAsciiDigit, Bool.or_eq_true, Bool.and_eq_true,
    decide_eq_true_eq, beq_iff_eq] at plain
  rcases plain with ((((((lower | upper) | digit) | rfl) | rfl) | rfl) | rfl) | rfl
  · have : c.toNat ≤ 0x7A := lower.2
    omega
  · have : c.toNat ≤ 0x5A := upper.2
    omega
  · have : c.toNat ≤ 0x39 := digit.2
    omega
  all_goals decide

theorem isTokenChar_ascii {c : Char} (ok : isTokenChar c = true) : c.toNat < 0x80 := by
  simp only [isTokenChar, Bool.or_eq_true, beq_iff_eq] at ok
  rcases ok with plain | rfl
  · exact isPlain_ascii plain
  · decide

theorem isPlain_of_isUpperHex {c : Char} (hex : isUpperHex c = true) : isPlain c = true := by
  simp only [isUpperHex, Bool.or_eq_true, Bool.and_eq_true, decide_eq_true_eq] at hex
  rcases hex with digit | letter
  · simp [isPlain, digit]
  · have below : c ≤ 'Z' := Nat.le_trans letter.2 (by decide : 'F'.toNat ≤ 'Z'.toNat)
    simp [isPlain, isAsciiLetter, letter.1, below]

theorem isTokenChar_of_mem {cs : List Char} {c : Char} (encoded : isEncoded cs = true)
    (mem : c ∈ cs) : isTokenChar c = true := by
  fun_induction isEncoded cs with
  | case1 => cases mem
  | case2 h l rest ih =>
    simp only [Bool.and_eq_true] at encoded
    simp only [List.mem_cons] at mem
    rcases mem with rfl | rfl | rfl | mem
    · rfl
    · simp [isTokenChar, isPlain_of_isUpperHex encoded.1.1]
    · simp [isTokenChar, isPlain_of_isUpperHex encoded.1.2]
    · exact ih encoded.2 mem
  | case3 d rest _ ih =>
    simp only [Bool.and_eq_true] at encoded
    rcases List.mem_cons.1 mem with rfl | mem
    · simp [isTokenChar, encoded.1]
    · exact ih encoded.2 mem

theorem isEncoded_cons {c : Char} {rest : List Char} (plain : isPlain c = true) :
    isEncoded (c :: rest) = isEncoded rest := by
  have noEscape : c ≠ '%' := by
    rintro rfl
    exact absurd plain (by decide)
  rw [isEncoded.eq_def]
  split
  · contradiction
  · next same => exact absurd (List.cons.inj same).1 noEscape
  · next same =>
    obtain ⟨rfl, rfl⟩ := List.cons.inj same
    simp [plain]

theorem isEncoded_append {cs ds : List Char} (left : isEncoded cs = true)
    (right : isEncoded ds = true) : isEncoded (cs ++ ds) = true := by
  fun_induction isEncoded cs with
  | case1 => exact right
  | case2 h l rest ih =>
    simp only [Bool.and_eq_true] at left
    simp [isEncoded, left.1, ih left.2]
  | case3 c rest _ ih =>
    simp only [Bool.and_eq_true] at left
    rw [List.cons_append, isEncoded_cons left.1]
    exact ih left.2

theorem isEncoded_escapeOctet (b : UInt8) : isEncoded (escapeOctet b) = true := by
  have bound := b.toNat_lt
  have high := isUpperHex_upperHex (show b.toNat / 16 < 16 by omega)
  have low := isUpperHex_upperHex (show b.toNat % 16 < 16 by omega)
  simp [escapeOctet, isEncoded, high, low]

private theorem isEncoded_octets (octets : Octets) :
    isEncoded (octets.flatMap escapeOctet) = true := by
  induction octets with
  | nil => rfl
  | cons b rest ih => exact isEncoded_append (isEncoded_escapeOctet b) ih

theorem isEncoded_encodeName (cs : List Char) : isEncoded (encodeName cs) = true := by
  induction cs with
  | nil => rfl
  | cons c rest ih =>
    refine isEncoded_append ?_ ih
    unfold encodeNameChar
    split
    · next plain => rw [isEncoded_cons plain]; rfl
    · exact isEncoded_octets _

theorem encodeName_ne_nil {cs : List Char} (nonempty : cs ≠ []) : encodeName cs ≠ [] := by
  obtain ⟨c, rest, rfl⟩ := List.exists_cons_of_ne_nil nonempty
  simp only [encodeName, List.flatMap_cons, ne_eq, List.append_eq_nil_iff, not_and]
  intro empty
  unfold encodeNameChar at empty
  split at empty
  · cases empty
  · obtain ⟨b, octets, first⟩ := List.exists_cons_of_ne_nil (String.utf8EncodeChar_ne_nil (c := c))
    rw [first] at empty
    cases empty

/-- A plain character other than a hexadecimal digit stands in a written name
only for itself. -/
theorem mem_of_mem_encodeName {cs : List Char} {c : Char} (mem : c ∈ encodeName cs)
    (notHex : isUpperHex c = false) (notPercent : c ≠ '%') : c ∈ cs := by
  obtain ⟨d, member, written⟩ := List.mem_flatMap.1 mem
  unfold encodeNameChar at written
  split at written
  · rwa [List.mem_singleton.1 written]
  · obtain ⟨b, _, escaped⟩ := List.mem_flatMap.1 written
    have bound := b.toNat_lt
    simp only [escapeOctet, List.mem_cons, List.not_mem_nil, or_false] at escaped
    rcases escaped with rfl | rfl | rfl
    · contradiction
    · rw [isUpperHex_upperHex (by omega)] at notHex
      contradiction
    · rw [isUpperHex_upperHex (by omega)] at notHex
      contradiction

/-! Reading. -/

theorem unescapeOctets_escapeOctet (b : UInt8) (rest : List Char) :
    unescapeOctets (escapeOctet b ++ rest) = b :: unescapeOctets rest := by
  have bound := b.toNat_lt
  have whole : UInt8.ofNat (16 * (b.toNat / 16) + b.toNat % 16) = b := by
    rw [show 16 * (b.toNat / 16) + b.toNat % 16 = b.toNat by omega]
    exact UInt8.ofNat_toNat
  simp [escapeOctet, unescapeOctets, hexValue?_upperHex (show b.toNat / 16 < 16 by omega),
    hexValue?_upperHex (show b.toNat % 16 < 16 by omega), whole]

theorem unescapeOctets_octets (octets : Octets) (rest : List Char) :
    unescapeOctets (octets.flatMap escapeOctet ++ rest) = octets ++ unescapeOctets rest := by
  induction octets with
  | nil => rfl
  | cons b octets ih =>
    rw [List.flatMap_cons, List.append_assoc, unescapeOctets_escapeOctet, ih, List.cons_append]

theorem unescapeOctets_cons {c : Char} (notPercent : c ≠ '%') (rest : List Char) :
    unescapeOctets (c :: rest) = UInt8.ofNat c.toNat :: unescapeOctets rest := by
  rw [unescapeOctets.eq_def]
  split
  · next same => exact absurd (List.cons.inj same).1 notPercent
  · next same =>
    obtain ⟨rfl, rfl⟩ := List.cons.inj same
    rfl
  · contradiction

theorem unescapeOctets_encodeName (cs rest : List Char) :
    unescapeOctets (encodeName cs ++ rest) = encodeUtf8 cs ++ unescapeOctets rest := by
  induction cs with
  | nil => rfl
  | cons c cs ih =>
    rw [encodeName, List.flatMap_cons, List.append_assoc, ← encodeName]
    unfold encodeNameChar
    split
    · next plain =>
      have notPercent : c ≠ '%' := by
        rintro rfl
        exact absurd plain (by decide)
      rw [List.singleton_append, unescapeOctets_cons notPercent, ih, encodeUtf8_cons,
        utf8EncodeChar_ascii (isPlain_ascii plain)]
      rfl
    · rw [unescapeOctets_octets, ih, encodeUtf8_cons, List.append_assoc]

private theorem hexValue?_percent : hexValue? '%' = none := by decide

private theorem unescapeOctets_noEscape {h l : Char} {rest : List Char}
    (noHex : ∀ high low, hexValue? h = some high → hexValue? l = some low → False) :
    unescapeOctets ('%' :: h :: l :: rest) = 0x25 :: unescapeOctets (h :: l :: rest) := by
  rw [unescapeOctets]
  split
  · next high low => exact (noHex _ _ high low).elim
  · rfl

private theorem unescapeOctets_percent (rest : List Char) :
    unescapeOctets ('%' :: '%' :: rest) = 0x25 :: unescapeOctets ('%' :: rest) := by
  cases rest with
  | nil => rfl
  | cons l rest =>
    exact unescapeOctets_noEscape fun high _ some => by simp [hexValue?_percent] at some

/-- A percent sign starts anew: no escape reaches across it. -/
theorem unescapeOctets_append_percent (cs rest : List Char) :
    unescapeOctets (cs ++ '%' :: rest) = unescapeOctets cs ++ unescapeOctets ('%' :: rest) := by
  fun_induction unescapeOctets cs with
  | case1 h l tail high low hh hl ih => simp [unescapeOctets, hh, hl, ih]
  | case2 h l tail noHex ih =>
    rw [List.cons_append, List.cons_append, List.cons_append, unescapeOctets_noEscape noHex]
    simpa using ih
  | case3 c tail short ih =>
    by_cases percent : c = '%'
    · subst percent
      -- Too little is left for an escape, and the next percent sign does not complete it.
      match tail with
      | [] => simpa [unescapeOctets] using unescapeOctets_percent rest
      | [h] =>
        have noHex : ∀ high low, hexValue? h = some high → hexValue? '%' = some low → False :=
          fun _ low _ some => by simp [hexValue?_percent] at some
        rw [List.cons_append, List.cons_append, List.nil_append, unescapeOctets_noEscape noHex]
        simpa using ih
      | h :: l :: more => exact (short h l more rfl rfl).elim
    · rw [List.cons_append, unescapeOctets_cons percent, ih, List.cons_append]
  | case4 => rfl

/-- ASCII text is decoded in one piece. -/
theorem decodeEscapes_ascii {cs : List Char} (ascii : ∀ c ∈ cs, c.toNat < 0x80) :
    decodeEscapes cs = decodeUtf8Lossy (unescapeOctets cs) := by
  suffices carried : ∀ seen, decodeEscapes.go seen cs =
      decodeUtf8Lossy (unescapeOctets (seen.reverse ++ cs)) from carried []
  intro seen
  induction cs generalizing seen with
  | nil => simp [decodeEscapes.go]
  | cons c rest ih =>
    have small : c.toNat < 0x80 := ascii c List.mem_cons_self
    rw [decodeEscapes.go, if_pos small,
      ih (fun d mem => ascii d (List.mem_cons_of_mem c mem)), List.reverse_cons,
      List.append_assoc, List.singleton_append]

theorem isEncoded_ascii {cs : List Char} (encoded : isEncoded cs = true) :
    ∀ c ∈ cs, c.toNat < 0x80 :=
  fun _ mem => isTokenChar_ascii (isTokenChar_of_mem encoded mem)

/-- Reading a written name gives the name back. -/
theorem decodeEscapes_encodeName (cs : List Char) : decodeEscapes (encodeName cs) = cs := by
  have written := unescapeOctets_encodeName cs []
  simp only [List.append_nil, unescapeOctets] at written
  rw [decodeEscapes_ascii (isEncoded_ascii (isEncoded_encodeName cs)), written,
    decodeUtf8Lossy_encodeUtf8]

end CallGraph.Text
