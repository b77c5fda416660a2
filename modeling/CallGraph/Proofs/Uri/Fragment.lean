import CallGraph.Proofs.Text.Cut
import CallGraph.Proofs.Text.Token
import CallGraph.Uri.Type

/-! Type fragments. A fragment is read back as the type it was written for,
both in full and in its bare form. The brackets of the dimensions cannot be
confused with the name: a written name ends in an escaped bracket only if the
name holds one, and a simple type name holds none. -/
namespace CallGraph
open Text

theorem toList_ne_nil {text : String} (nonempty : text ≠ "") : text.toList ≠ [] := by
  simpa using nonempty

theorem readName_eq_ok_iff {part : Uri.Part} {token : List Char} {name : String} :
    Uri.readName part token = .ok name ↔ Denotes token name := by
  rw [Uri.readName, denotes_iff]
  split
  · next token => simp [token, eq_comm]
  · next noToken => simp [noToken]

/-- A written name is read back whatever part of a URI it stands for. -/
theorem readName_encodeName (part : Uri.Part) {name : String} (nonempty : name ≠ "") :
    Uri.readName part (encodeName name.toList) = .ok name :=
  readName_eq_ok_iff.2 (denotes_encodeName nonempty)

/-- The condition on simple names, character by character. -/
theorem isTypeName_iff {name : String} : isTypeName name = true ↔
    name ≠ "" ∧ ∀ c ∈ name.toList, c ≠ '.' ∧ c ≠ '[' ∧ c ≠ ']' := by
  simp [isTypeName, and_assoc]

theorem isTypeName_ne {name : String} (ok : isTypeName name = true) : name ≠ "" :=
  (isTypeName_iff.1 ok).1

theorem isTypeName_free {name : String} (ok : isTypeName name = true) {c : Char}
    (reserved : c = '.' ∨ c = '[' ∨ c = ']') : c ∉ name.toList := by
  intro mem
  obtain ⟨noDot, noOpen, noClose⟩ := (isTypeName_iff.1 ok).2 c mem
  rcases reserved with rfl | rfl | rfl <;> contradiction

namespace TypeUri

theorem make_ok {ns name : String} (nsNe : ns ≠ "") (nameOk : isTypeName name = true)
    (dims : Nat) : make ns name dims = .ok ⟨ns, name, dims, nsNe, nameOk⟩ := by
  simp [make, checkName, nsNe, nameOk]

theorem checkName_refused {name : String} (bad : ¬ isTypeName name = true) :
    ∃ defect, checkName name = .error defect := by
  unfold checkName
  rw [dif_neg bad]
  split
  · exact ⟨_, rfl⟩
  · exact ⟨_, rfl⟩

/-- A type has the parts that it is made of. -/
theorem parts_of_make {ns name : String} {dims : Int} {type : TypeUri}
    (made : make ns name dims = .ok type) :
    type.ns = ns ∧ type.name = name ∧ type.dims = dims := by
  by_cases nsNe : ns = ""
  · simp [make, nsNe] at made
  by_cases nameOk : isTypeName name = true
  · by_cases negative : dims < 0
    · simp [make, checkName, nsNe, nameOk, negative] at made
    · simp only [make, checkName, nsNe, nameOk, negative, if_false, dite_true, dite_false,
        Except.ok.injEq] at made
      obtain rfl := made
      exact ⟨rfl, rfl, Int.toNat_of_nonneg (by omega)⟩
  · obtain ⟨defect, refused⟩ := checkName_refused nameOk
    simp [make, nsNe, refused] at made

private theorem peelDims_bracketPair (rest : List Char) :
    peelDims (bracketPair.reverse ++ rest) = ((peelDims rest).1 + 1, (peelDims rest).2) := rfl

private theorem peelDims_pairs (dims : Nat) (rest : List Char) :
    peelDims ((List.replicate dims bracketPair).flatten.reverse ++ rest) =
      ((peelDims rest).1 + dims, (peelDims rest).2) := by
  induction dims generalizing rest with
  | zero => simp
  | succ dims ih =>
    rw [List.replicate_succ, List.flatten_cons, List.reverse_append, List.append_assoc, ih,
      peelDims_bracketPair, Nat.add_assoc, Nat.add_comm 1]

private theorem peelDims_name {cs : List Char} (noPair : ¬ ['D', '5', '%'] <+: cs) :
    peelDims cs = (0, cs) := by
  unfold peelDims
  split
  · next rest => exact absurd ⟨_, rfl⟩ noPair
  · rfl

/-- An escaped closing bracket in a written name stands for one in the name. -/
theorem closing_bracket_of_escaped {cs before : List Char}
    (written : encodeName cs = before ++ ['%', '5', 'D']) : ']' ∈ cs := by
  have octets := unescapeOctets_encodeName cs []
  rw [List.append_nil, written, unescapeOctets_append_percent] at octets
  have last : unescapeOctets ['%', '5', 'D'] = [UInt8.ofNat ']'.toNat] := by decide
  apply mem_encodeUtf8_ascii (by decide)
  rw [← List.append_nil (encodeUtf8 cs), ← show unescapeOctets [] = [] from rfl, ← octets, last]
  simp

/-- Taking the dimensions off a bare fragment leaves exactly the written name. -/
theorem peelDims_bareChars (type : TypeUri) :
    peelDims type.bareChars.reverse = (type.dims, (encodeName type.name.toList).reverse) := by
  have noPair : ¬ ['D', '5', '%'] <+: (encodeName type.name.toList).reverse := by
    rintro ⟨rest, start⟩
    have written := congrArg List.reverse start
    rw [List.reverse_reverse, List.reverse_append] at written
    exact isTypeName_free type.name_ok (.inr (.inr rfl)) (closing_bracket_of_escaped written.symm)
  rw [bareChars, List.reverse_append, peelDims_pairs, peelDims_name noPair, Nat.zero_add]

theorem ofToken_bareChars (type : TypeUri) (whole : String) :
    ofToken type.ns type.bareChars whole = .ok type := by
  have nameNe := isTypeName_ne type.name_ok
  have read := readName_encodeName .type nameNe
  unfold ofToken
  rw [peelDims_bareChars]
  simp only [List.reverse_reverse]
  split
  · next empty => exact absurd empty (encodeName_ne_nil (toList_ne_nil nameNe))
  · simp only [read, bind, Except.bind, type.name_ok, if_true, make_ok type.ns_ne type.name_ok]

/-! What characters a fragment has. -/

theorem isEncoded_bareChars (type : TypeUri) : isEncoded type.bareChars = true := by
  refine isEncoded_append (isEncoded_encodeName _) ?_
  induction type.dims with
  | zero => rfl
  | succ dims ih =>
    rw [List.replicate_succ, List.flatten_cons]
    exact isEncoded_append (by decide) ih

theorem bareChars_ne_nil (type : TypeUri) : type.bareChars ≠ [] := by
  simp [bareChars, encodeName_ne_nil (toList_ne_nil (isTypeName_ne type.name_ok))]

end TypeUri

/-- Encoded text is free of every separator. -/
theorem free_of_isEncoded {cs : List Char} (encoded : isEncoded cs = true) {c : Char}
    (separator : isTokenChar c = false) : c ∉ cs := by
  intro mem
  rw [isTokenChar_of_mem encoded mem] at separator
  contradiction

namespace TypeUri

/-- The URI of a type is read back as the type. -/
theorem parse_text (type : TypeUri) (relativeTo : Option String) :
    parse type.text relativeTo = .ok type := by
  have read := readName_encodeName .ns type.ns_ne
  have noSlash : isTokenChar '/' = false := by decide
  have cut : fields '/' (encodeName type.ns.toList ++ '/' :: type.bareChars) =
      [encodeName type.ns.toList, type.bareChars] := by
    rw [fields_append (free_of_isEncoded (isEncoded_encodeName _) noSlash),
      fields_of_free (free_of_isEncoded type.isEncoded_bareChars noSlash)]
  simp only [parse, text, fragment, fragmentChars, reduceCtorEq, if_false, String.toList_ofList,
    List.cons_append, cut, read, bind, Except.bind, ofToken_bareChars]

/-- A fragment relative to a namespace is read back in that namespace. -/
theorem parse_fragment (type : TypeUri) (ns : String) :
    parse (type.fragment (some ns)) (some ns) = .ok type := by
  by_cases same : ns = type.ns
  · subst same
    have noSlash : '/' ∉ type.bareChars := free_of_isEncoded type.isEncoded_bareChars (by decide)
    unfold parse fragment fragmentChars
    simp only [if_true, String.toList_ofList]
    split
    · next path start => exact absurd (start ▸ List.mem_cons_self) noSlash
    · simp [noSlash, ofToken_bareChars]
  · have absolute : type.fragment (some ns) = type.text := by
      simp [text, fragment, fragmentChars, same]
    rw [absolute, parse_text]

end TypeUri
end CallGraph
