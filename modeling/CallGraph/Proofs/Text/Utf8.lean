import CallGraph.Text.Utf8

/-! Reading UTF-8 undoes writing it. The walk over the octets of one character
is followed through each of its states, so a text comes back whole whether it
is read strictly or lossily. -/
namespace CallGraph.Text

private theorem toNat_ofNat {n : Nat} (small : n < 256) : (UInt8.ofNat n).toNat = n := by
  rw [UInt8.toNat_ofNat']
  exact Nat.mod_eq_of_lt small

private theorem lead_ascii {b : Nat} (high : b < 0x80) :
    leadOctet b = ([some (Char.ofNat b)], .between) := by
  rw [leadOctet, if_pos high]

private theorem lead_two {b : Nat} (low : 0xC2 ≤ b) (high : b < 0xE0) :
    leadOctet b = ([], .inside 0 0x80 0xBF (b - 0xC0)) := by
  rw [leadOctet, if_neg (by omega), if_neg (by omega), if_pos high]

/-- The second of three octets has a narrower range after `E0` and `ED`. -/
private theorem lead_three {b : Nat} (low : 0xE0 ≤ b) (high : b < 0xF0) :
    leadOctet b = ([], .inside 1 (if b = 0xE0 then 0xA0 else 0x80)
      (if b = 0xED then 0x9F else 0xBF) (b - 0xE0)) := by
  rw [leadOctet, if_neg (by omega), if_neg (by omega), if_neg (by omega)]
  by_cases first : b = 0xE0
  · simp [first]
  · by_cases surrogate : b = 0xED
    · simp [surrogate]
    · simp [first, surrogate, high]

/-- The second of four octets has a narrower range after `F0` and `F4`. -/
private theorem lead_four {b : Nat} (low : 0xF0 ≤ b) (high : b < 0xF5) :
    leadOctet b = ([], .inside 2 (if b = 0xF0 then 0x90 else 0x80)
      (if b = 0xF4 then 0x8F else 0xBF) (b - 0xF0)) := by
  rw [leadOctet, if_neg (by omega), if_neg (by omega), if_neg (by omega), if_neg (by omega),
    if_neg (by omega), if_neg (by omega)]
  by_cases first : b = 0xF0
  · simp [first]
  · by_cases last : b = 0xF4
    · simp [last]
    · simp [first, last, show b < 0xF4 by omega]

private theorem inside_last {low high bits b : Nat} (above : low ≤ b) (below : b ≤ high) :
    utf8Octet (.inside 0 low high bits) b =
      ([some (Char.ofNat (bits * 64 + (b - 0x80)))], .between) := by
  simp [utf8Octet, above, below]

private theorem inside_more {more low high bits b : Nat} (above : low ≤ b) (below : b ≤ high) :
    utf8Octet (.inside (more + 1) low high bits) b =
      ([], .inside more 0x80 0xBF (bits * 64 + (b - 0x80))) := by
  simp [utf8Octet, above, below]

private theorem pieces_cons (state : Utf8State) (b : UInt8) (rest : Octets) :
    utf8Pieces state (b :: rest) =
      (utf8Octet state b.toNat).1 ++ utf8Pieces (utf8Octet state b.toNat).2 rest := by
  cases state <;> rfl

/-- The octets of a character are read as that character, whatever follows. -/
theorem utf8Pieces_encodeChar (c : Char) (rest : Octets) :
    utf8Pieces .between (String.utf8EncodeChar c ++ rest) =
      some c :: utf8Pieces .between rest := by
  have valid : c.toNat < 0xD800 ∨ 0xDFFF < c.toNat ∧ c.toNat < 0x110000 := c.valid
  have same := Char.ofNat_toNat c
  generalize number : c.toNat = v at valid same
  have encoded : c.val.toNat = v := number
  unfold String.utf8EncodeChar
  simp only [encoded]
  split
  · next one =>
    simp only [List.cons_append, List.nil_append, pieces_cons, toNat_ofNat (show v < 256 by omega),
      utf8Octet, lead_ascii (show v < 0x80 by omega), same]
  · split
    · next two =>
      simp only [List.cons_append, List.nil_append, pieces_cons]
      rw [toNat_ofNat (by omega), toNat_ofNat (by omega), utf8Octet,
        lead_two (by omega) (by omega), inside_last (by omega) (by omega),
        show (v / 64 % 0x20 + 0xC0 - 0xC0) * 64 + (v % 0x40 + 0x80 - 0x80) = v by omega, same]
      rfl
    · split
      · next three =>
        simp only [List.cons_append, List.nil_append, pieces_cons]
        rw [toNat_ofNat (by omega), toNat_ofNat (by omega), toNat_ofNat (by omega), utf8Octet,
          lead_three (by omega) (by omega), inside_more (by split <;> omega) (by split <;> omega),
          inside_last (by omega) (by omega),
          show ((v / 4096 % 0x10 + 0xE0 - 0xE0) * 64 + (v / 64 % 0x40 + 0x80 - 0x80)) * 64 +
            (v % 0x40 + 0x80 - 0x80) = v by omega, same]
        rfl
      · next four =>
        simp only [List.cons_append, List.nil_append, pieces_cons]
        rw [toNat_ofNat (by omega), toNat_ofNat (by omega), toNat_ofNat (by omega),
          toNat_ofNat (by omega), utf8Octet,
          lead_four (by omega) (by omega), inside_more (by split <;> omega) (by split <;> omega),
          inside_more (by omega) (by omega), inside_last (by omega) (by omega),
          show (((v / 262144 % 0x08 + 0xF0 - 0xF0) * 64 + (v / 4096 % 0x40 + 0x80 - 0x80)) * 64 +
            (v / 64 % 0x40 + 0x80 - 0x80)) * 64 + (v % 0x40 + 0x80 - 0x80) = v by omega, same]
        rfl

theorem encodeUtf8_cons (c : Char) (rest : List Char) :
    encodeUtf8 (c :: rest) = String.utf8EncodeChar c ++ encodeUtf8 rest := rfl

theorem utf8Pieces_encodeUtf8 (cs : List Char) :
    utf8Pieces .between (encodeUtf8 cs) = cs.map some := by
  induction cs with
  | nil => rfl
  | cons c rest ih =>
    rw [encodeUtf8_cons, utf8Pieces_encodeChar, ih, List.map_cons]

/-- Strict reading accepts every text that was written, and returns it. -/
theorem decodeUtf8?_encodeUtf8 (cs : List Char) : decodeUtf8? (encodeUtf8 cs) = some cs := by
  rw [decodeUtf8?, utf8Pieces_encodeUtf8]
  induction cs with
  | nil => rfl
  | cons c rest ih => simp [List.mapM_cons, ih]

theorem decodeUtf8Lossy_encodeUtf8 (cs : List Char) : decodeUtf8Lossy (encodeUtf8 cs) = cs := by
  rw [decodeUtf8Lossy, utf8Pieces_encodeUtf8]
  simp [Function.comp_def]

theorem utf8EncodeChar_ascii {c : Char} (ascii : c.toNat < 0x80) :
    String.utf8EncodeChar c = [UInt8.ofNat c.toNat] := by
  have le : c.val.toNat ≤ 0x7f := Nat.lt_succ_iff.mp ascii
  simp only [String.utf8EncodeChar, le, ↓reduceIte]
  rfl

/-- An octet below 128 is no part of a character outside ASCII. -/
theorem utf8EncodeChar_wide {c : Char} {b : UInt8} (wide : 0x80 ≤ c.toNat)
    (mem : b ∈ String.utf8EncodeChar c) : 0x80 ≤ b.toNat := by
  have val : c.val.toNat = c.toNat := rfl
  unfold String.utf8EncodeChar at mem
  simp only [val] at mem
  split at mem
  · omega
  · split at mem
    · simp only [List.mem_cons, List.not_mem_nil, or_false] at mem
      rcases mem with rfl | rfl <;> rw [toNat_ofNat (by omega)] <;> omega
    · split at mem <;>
        simp only [List.mem_cons, List.not_mem_nil, or_false] at mem
      · rcases mem with rfl | rfl | rfl <;> rw [toNat_ofNat (by omega)] <;> omega
      · rcases mem with rfl | rfl | rfl | rfl <;> rw [toNat_ofNat (by omega)] <;> omega

/-- The octet of an ASCII character is written for that character only. -/
theorem mem_encodeUtf8_ascii {cs : List Char} {c : Char} (ascii : c.toNat < 0x80)
    (mem : UInt8.ofNat c.toNat ∈ encodeUtf8 cs) : c ∈ cs := by
  have value : (UInt8.ofNat c.toNat).toNat = c.toNat := toNat_ofNat (by omega)
  obtain ⟨d, member, octet⟩ := List.mem_flatMap.1 mem
  by_cases small : d.toNat < 0x80
  · rw [utf8EncodeChar_ascii small, List.mem_singleton] at octet
    have equal : c.toNat = d.toNat := by
      rw [← value, octet, toNat_ofNat (by omega)]
    rwa [← Char.ofNat_toNat c, equal, Char.ofNat_toNat d]
  · have := utf8EncodeChar_wide (Nat.not_lt.1 small) octet
    omega

/-! Every octet counts for something. -/

/-- Inside a character something is still to come: the character, or the
ill-formed piece in its place. -/
private theorem utf8Pieces_inside_ne_nil (more low high bits : Nat) (octets : Octets) :
    utf8Pieces (.inside more low high bits) octets ≠ [] := by
  induction octets generalizing more low high bits with
  | nil => exact List.cons_ne_nil _ _
  | cons b rest ih =>
    rw [pieces_cons]
    by_cases continues : low ≤ b.toNat ∧ b.toNat ≤ high
    · cases more with
      | zero =>
        rw [inside_last continues.1 continues.2]
        exact List.cons_ne_nil _ _
      | succ more =>
        rw [inside_more continues.1 continues.2]
        exact ih more _ _ _
    · rw [utf8Octet, if_neg continues]
      exact List.cons_ne_nil _ _

/-- A lead completes a piece, or begins a character that has more octets. -/
private theorem leadOctet_cases (b : Nat) : (leadOctet b).1 ≠ [] ∨
    ∃ more low high bits, leadOctet b = ([], .inside more low high bits) := by
  by_cases ascii : b < 0x80
  · exact .inl (by rw [lead_ascii ascii]; exact List.cons_ne_nil _ _)
  by_cases stray : b < 0xC2
  · exact .inl (by rw [leadOctet, if_neg ascii, if_pos stray]; exact List.cons_ne_nil _ _)
  by_cases two : b < 0xE0
  · exact .inr ⟨_, _, _, _, lead_two (by omega) two⟩
  by_cases three : b < 0xF0
  · exact .inr ⟨_, _, _, _, lead_three (by omega) three⟩
  by_cases four : b < 0xF5
  · exact .inr ⟨_, _, _, _, lead_four (by omega) four⟩
  · refine .inl ?_
    rw [leadOctet, if_neg ascii, if_neg stray, if_neg two, if_neg (by omega), if_neg (by omega),
      if_neg three, if_neg (by omega), if_neg (by omega), if_neg (by omega)]
    exact List.cons_ne_nil _ _

/-- Octets never read as no text. -/
theorem decodeUtf8Lossy_ne_nil {octets : Octets} (nonempty : octets ≠ []) :
    decodeUtf8Lossy octets ≠ [] := by
  obtain ⟨b, rest, rfl⟩ := List.exists_cons_of_ne_nil nonempty
  rw [decodeUtf8Lossy, pieces_cons, utf8Octet, ne_eq, List.map_eq_nil_iff, List.append_eq_nil_iff]
  rintro ⟨silent, later⟩
  rcases leadOctet_cases b.toNat with completes | ⟨more, low, high, bits, continues⟩
  · exact completes silent
  · rw [continues] at later
    exact utf8Pieces_inside_ne_nil more low high bits rest later

end CallGraph.Text
