import CallGraph.Proofs.Uri.Grammar

/-! The URI of a method determines the method. Every signature is read back
from its canonical URI, whatever characters its names hold, so no two methods
share a URI, and an absent product is told from an empty one. -/
namespace CallGraph
open Text

namespace MethodUri

/-- The characters of a fragment before it is escaped for a method URI. -/
private def IsFragmentText (cs : List Char) : Prop := ∀ c ∈ cs, isTokenChar c = true ∨ c = '/'

private theorem fragmentText (type : TypeUri) (relativeTo : Option String) :
    IsFragmentText (type.fragmentChars relativeTo) := by
  have name : ∀ c ∈ encodeName type.ns.toList, isTokenChar c = true :=
    fun _ mem => isTokenChar_of_mem (isEncoded_encodeName _) mem
  have bare : ∀ c ∈ type.bareChars, isTokenChar c = true :=
    fun _ mem => isTokenChar_of_mem type.isEncoded_bareChars mem
  intro c mem
  unfold TypeUri.fragmentChars at mem
  split at mem
  · exact .inl (bare c mem)
  · simp only [List.cons_append, List.mem_cons, List.mem_append] at mem
    rcases mem with rfl | mem | rfl | mem
    · exact .inr rfl
    · exact .inl (name c mem)
    · exact .inr rfl
    · exact .inl (bare c mem)

private theorem isEncoded_escapeFragment {cs : List Char} (ok : IsFragmentText cs) :
    isEncoded (escapeFragment cs) = true := by
  induction cs with
  | nil => rfl
  | cons c rest ih =>
    have restOk : isEncoded (escapeFragment rest) = true :=
      ih fun d mem => ok d (List.mem_cons_of_mem c mem)
    refine isEncoded_append ?_ restOk
    by_cases percent : c = '%'
    · subst percent; decide
    · by_cases slash : c = '/'
      · subst slash; decide
      · have plain : isPlain c = true := by
          simpa [isTokenChar, percent, slash] using ok c List.mem_cons_self
        simp only [percent, slash, if_false, isEncoded_cons plain]
        rfl

private theorem unescapeOctets_escapeFragment {cs : List Char} (ok : IsFragmentText cs) :
    unescapeOctets (escapeFragment cs) = encodeUtf8 cs := by
  induction cs with
  | nil => rfl
  | cons c rest ih =>
    have restOk := ih fun d mem => ok d (List.mem_cons_of_mem c mem)
    rw [show escapeFragment (c :: rest) = (if c = '%' then ['%', '2', '5'] else
      if c = '/' then ['%', '2', 'F'] else [c]) ++ escapeFragment rest from rfl, encodeUtf8_cons,
      ← restOk]
    by_cases percent : c = '%'
    · subst percent; rfl
    · by_cases slash : c = '/'
      · subst slash; rfl
      · have plain : isPlain c = true := by
          simpa [isTokenChar, percent, slash] using ok c List.mem_cons_self
        simp only [percent, slash, if_false, List.singleton_append, unescapeOctets_cons percent,
          utf8EncodeChar_ascii (isPlain_ascii plain)]

/-- Undoing the escapes of a fragment once gives the fragment. -/
private theorem decodeEscapes_escapeFragment {cs : List Char} (ok : IsFragmentText cs) :
    decodeEscapes (escapeFragment cs) = cs := by
  rw [decodeEscapes_ascii (isEncoded_ascii (isEncoded_escapeFragment ok)),
    unescapeOctets_escapeFragment ok, decodeUtf8Lossy_encodeUtf8]

theorem isEncoded_typeToken (ns : String) (type : TypeUri) :
    isEncoded (typeToken ns type) = true :=
  isEncoded_escapeFragment (fragmentText type (some ns))

theorem typeToken_ne_nil (ns : String) (type : TypeUri) : typeToken ns type ≠ [] := by
  intro empty
  have undone := decodeEscapes_escapeFragment (fragmentText type (some ns))
  rw [show escapeFragment (type.fragmentChars (some ns)) = [] from empty] at undone
  have bare := type.bareChars_ne_nil
  unfold TypeUri.fragmentChars at undone
  split at undone
  · exact bare undone.symm
  · cases undone

/-- A parameter or result is read back as the type it was written for. -/
theorem readType_typeToken (ns : String) (type : TypeUri) :
    readType ns (typeToken ns type) = .ok type := by
  have token : isToken (typeToken ns type) = true := by
    simp [isToken, typeToken_ne_nil, isEncoded_typeToken]
  rw [readType, if_pos token, typeToken,
    decodeEscapes_escapeFragment (fragmentText type (some ns))]
  exact type.parse_fragment ns

/-- The tokens of the canonical URI of a method. -/
def tokens (method : MethodUri) : Tokens where
  product := method.product.map fun product => encodeName product.toList
  ns := encodeName method.ns.toList
  typeName := encodeName method.typeName.toList
  name := encodeName method.name.toList
  params := method.params.map (typeToken method.ns)
  ret := typeToken method.ns method.ret

theorem chars_tokens (method : MethodUri) : method.tokens.chars = method.textChars := by
  cases product : method.product <;>
    simp [Tokens.chars, Tokens.authority, tokens, textChars, authority, product]

/-- The tokens of the canonical URI write the method. -/
theorem tokens_writes (method : MethodUri) : method.tokens.Writes method where
  product := by
    rw [tokens]
    cases method.product with
    | none => exact .none
    | some product => exact .some (encodes_encodeName product)
  ns := denotes_encodeName method.ns_ne
  noDot mem := isTypeName_free method.typeName_ok (.inl rfl)
    (mem_of_mem_encodeName mem (by decide) (by decide))
  typeName := denotes_encodeName (isTypeName_ne method.typeName_ok)
  name := denotes_encodeName method.name_ne
  params := by
    rw [tokens, List.forall₂_map_left_iff, List.forall₂_same]
    exact fun type _ => readType_eq_ok_iff.1 (readType_typeToken method.ns type)
  ret := readType_eq_ok_iff.1 (readType_typeToken method.ns method.ret)

/-- Reading the canonical URI of a method gives the method. -/
theorem parse_text (method : MethodUri) : parse method.text = .ok method := by
  rw [text, ← chars_tokens]
  exact parse_chars method.tokens_writes

/-- Two methods with one URI are the same method. -/
theorem text_injective : Function.Injective text := by
  intro a b same
  have read := parse_text a
  rw [same, parse_text b] at read
  exact (Except.ok.inj read).symm

/-- **A signature survives being written.** Whatever its names hold, a
signature that forms a method is read back from the method's URI part by part,
the absent product apart from the empty one; and a type is read back from its
URI and from its fragment relative to any namespace. -/
theorem signature_round_trip :
    (∀ (product : Option String) (ns typeName name : String) (params : List TypeUri)
      (ret : TypeUri), ns ≠ "" →
      (typeName ≠ "" ∧ ∀ c ∈ typeName.toList, c ≠ '.' ∧ c ≠ '[' ∧ c ≠ ']') → name ≠ "" →
      ∃ method read, make product ns typeName name params ret = .ok method ∧
        parse method.text = .ok read ∧
        read.product = product ∧ read.ns = ns ∧ read.typeName = typeName ∧ read.name = name ∧
        read.params = params ∧ read.ret = ret) ∧
    Function.Injective text ∧
    (∀ type : TypeUri, TypeUri.parse type.text none = .ok type) ∧
    (∀ (type : TypeUri) (ns : String),
      TypeUri.parse (type.fragment (some ns)) (some ns) = .ok type) := by
  refine ⟨?_, text_injective, fun type => type.parse_text none, TypeUri.parse_fragment⟩
  intro product ns typeName name params ret nsNe typeNameOk nameNe
  have made := make_ok product params ret nsNe (isTypeName_iff.2 typeNameOk) nameNe
  exact ⟨_, _, made, parse_text _, rfl, rfl, rfl, rfl, rfl, rfl⟩

/-- Every name may hold separators, and the empty product stays one. -/
theorem signature_round_trip_separators :
    ("a/(b" ≠ "" ∧ ("T%5B$/" ≠ "" ∧ ∀ c ∈ "T%5B$/".toList, c ≠ '.' ∧ c ≠ '[' ∧ c ≠ ']') ∧
      "m),.é" ≠ "") ∧
    ∃ method read, make (some "") "a/(b" "T%5B$/" "m),.é"
        [⟨"a/(b", "P", 2, by decide, by decide⟩] ⟨"c", "R,", 0, by decide, by decide⟩ =
          .ok method ∧
      parse method.text = .ok read ∧
      read.product = some "" ∧ read.ns = "a/(b" ∧ read.typeName = "T%5B$/" ∧
      read.name = "m),.é" ∧ read.params = [⟨"a/(b", "P", 2, by decide, by decide⟩] ∧
      read.ret = ⟨"c", "R,", 0, by decide, by decide⟩ :=
  ⟨⟨by decide, isTypeName_iff.1 (by decide), by decide⟩,
    signature_round_trip.1 (some "") "a/(b" "T%5B$/" "m),.é" _ _ (by decide)
      (isTypeName_iff.1 (by decide)) (by decide)⟩

end MethodUri
end CallGraph
