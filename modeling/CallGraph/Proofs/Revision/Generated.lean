import Mathlib.Algebra.Group.Int.Defs
import Mathlib.Algebra.Group.Nat.Defs
import CallGraph.Proofs.RawGraph.Numbered
import CallGraph.Proofs.RawGraph.Size
import CallGraph.Proofs.Revision.Build
import CallGraph.Proofs.Revision.RoundTrip
import CallGraph.Proofs.Revision.Validity

/-! Generated documents are valid. Where methods are numbered in one list, the
document is consistent: every URI and every number in it is read as what was
written, and the numbers at the ends of calls are those of methods. Its text is
read as the document, so validation sees just that. -/
namespace CallGraph.Revision

variable {graph : ArtifactGraph} {methods : List MethodUri} {calls : Nat}
  (product version : String) (timestamp : Int) (depset : DependencySet)

/-- A number that 64 bits can count to has few digits. -/
private theorem repr_short {n : Nat} (small : n ≤ 2 ^ 64) :
    n.repr.toList.length ≤ Text.maxDigits := by
  have below : n < 10 ^ 20 := by omega
  have digits : (Nat.toDigits 10 n).length ≤ 20 :=
    (Nat.length_toDigits_le_iff (by decide) (by decide)).2 below
  rw [Nat.toList_repr]
  exact Nat.le_trans digits (by decide)

/-- Such a number can be written. -/
private theorem isWritable_of_le {n : Nat} (small : n ≤ 2 ^ 64) : Text.isWritable n = true := by
  have below : n < 10 ^ 20 := by omega
  have bound (digits : Nat) (enough : 20 ≤ digits) : n < Nat.pow 10 digits :=
    Nat.lt_of_lt_of_le below (Nat.pow_le_pow_right (by decide) enough)
  exact decide_eq_true (bound Text.maxDigits (by decide))

/-- Each type of a numbered graph lists its methods under their numbers. -/
theorem lists_typeEntry (numbered : graph.Numbered methods calls)
    (short : methods.length ≤ 2 ^ 64) {type : TypeUri} {known : TypeMethods}
    (mem : (type, known) ∈ graph.hierarchy.entries) :
    Lists (type.text, typeEntry known) (known.methods.keys.map Int.toNat) := by
  refine ⟨type, type.parse_text none, ?_⟩
  rw [methods_typeEntry, Table.keys, List.map_map, List.forall₂_map_left_iff,
    List.forall₂_map_right_iff, List.forall₂_same]
  rintro ⟨i, method⟩ entry
  obtain ⟨declared, n, rfl, listed⟩ := numbered.entry mem entry
  have inside : n < methods.length := (List.getElem?_eq_some_iff.1 listed).1
  have few : n ≤ 2 ^ 64 := Nat.le_trans (Nat.le_of_lt inside) short
  exact ⟨numberOf?_repr (repr_short few), by simp [checkMethod, method.parse_text, declared]⟩

/-- The numbers in the document of a numbered graph can be written. -/
theorem writable_of_numbered (numbered : graph.Numbered methods calls)
    (short : methods.length ≤ 2 ^ 64) (few : calls ≤ 2 ^ 64) : Writable graph := by
  intro i mem
  obtain inside | outside := List.mem_append.1 mem
  · obtain ⟨⟨type, known⟩, here, mem⟩ := List.mem_flatMap.1 inside
    obtain ⟨⟨i, method⟩, entry, rfl⟩ := List.mem_map.1 mem
    obtain ⟨-, n, rfl, listed⟩ := numbered.entry here entry
    have below := (List.getElem?_eq_some_iff.1 listed).1
    exact isWritable_of_le (Nat.le_trans (Nat.le_of_lt below) short)
  · obtain ⟨⟨⟨caller, callee⟩, counts⟩, here, mem⟩ := List.mem_flatMap.1 outside
    rcases List.mem_cons.1 mem with rfl | counted
    · obtain ⟨n, same, below⟩ := numbered.external (i, callee) (List.mem_map.2 ⟨_, here, rfl⟩)
      obtain rfl : i = n := same
      exact isWritable_of_le (Nat.le_trans (Nat.le_of_lt below) short)
    · obtain ⟨⟨kind, n⟩, shown, rfl⟩ := List.mem_map.1 counted
      obtain ⟨-, bounded⟩ := numbered.counted caller callee kind n
        (ArtifactGraph.counter_eq_some_iff.2 ⟨counts, here, shown⟩)
      exact isWritable_of_le (Nat.le_trans bounded few)

/-- The document of a numbered graph is consistent. -/
theorem consistent_ofGraph (numbered : graph.Numbered methods calls)
    (short : methods.length ≤ 2 ^ 64) (few : calls ≤ 2 ^ 64) :
    Consistent (ofGraph product version timestamp depset graph) graph.numberLists where
  types := by
    rw [cha_ofGraph, ArtifactGraph.numberLists, List.forall₂_map_left_iff,
      List.forall₂_map_right_iff, List.forall₂_same]
    exact fun _ mem => lists_typeEntry numbered short mem
  distinct := numbered.numberLists_nodup
  internal := by
    intro call mem i here
    obtain ⟨n, same, inside⟩ := numbered.internal call mem i here
    exact ⟨n, numbered.mem_numberLists.2 inside, same⟩
  external := by
    intro entry mem
    rw [externalCalls_ofGraph, List.mem_map] at mem
    obtain ⟨⟨⟨caller, callee⟩, counts⟩, mem, rfl⟩ := mem
    obtain ⟨n, same, inside⟩ := numbered.external (caller, callee) (List.mem_map.2 ⟨_, mem, rfl⟩)
    obtain rfl : caller = n := same
    have named := numberOf?_repr (repr_short (Nat.le_trans (Nat.le_of_lt inside) short))
    exact ⟨_, _, n, callee, splitKey_externalKey n callee, named, numbered.mem_numberLists.2 inside,
      callee.parse_text⟩
  counts := by
    intro entry mem count countMem
    rw [externalCalls_ofGraph, List.mem_map] at mem
    obtain ⟨⟨⟨caller, callee⟩, counts⟩, mem, rfl⟩ := mem
    obtain ⟨⟨kind, n⟩, shown, rfl⟩ := List.mem_map.1 countMem
    obtain ⟨positive, bounded⟩ := numbered.counted caller callee kind n
      (ArtifactGraph.counter_eq_some_iff.2 ⟨counts, mem, shown⟩)
    refine ⟨n - 1, ?_⟩
    rw [Nat.sub_add_cancel positive]
    exact numberOf?_repr (repr_short (Nat.le_trans bounded few))
  forge := rfl
  generator := rfl

/-- The integers in the document of a numbered graph fit. -/
theorem integers_ofGraph (numbered : graph.Numbered methods calls) (short : methods.length ≤ 2 ^ 64)
    (fits : Json.fitsDocument timestamp = true) :
    ∀ i ∈ (ofGraph product version timestamp depset graph).integers,
      Json.fitsDocument i = true := by
  intro i mem
  obtain inside | outside := List.mem_append.1 mem
  · -- The bound is strict, so also the last number is below 2 ^ 64.
    obtain ⟨call, callMem, here⟩ := List.mem_flatMap.1 inside
    obtain ⟨n, rfl, below⟩ := numbered.internal call callMem i here
    simp only [Json.fitsDocument, Bool.and_eq_true, decide_eq_true_eq]
    omega
  · rw [List.mem_singleton.1 outside]
    exact fits

/-- Whatever an analyzer's output is assembled into has a document that can be
written, and validation of what was written reports nothing. No text is so long
that its octets cannot be numbered in 64 bits. -/
theorem generated_document_valid [Platform] {octets : Octets} {raw : RawGraph}
    (addressable : octets.length ≤ 2 ^ 64) (read : RawGraph.ofOctets octets = .ok raw)
    (assembled : raw.assemble = .ok graph) (product version : String) {timestamp : Int}
    (low : -2 ^ 63 ≤ timestamp) (high : timestamp < 2 ^ 64) (depset : DependencySet)
    (layout : Json.Layout) :
    ∃ doc text, build product version timestamp depset graph = .ok doc ∧
      doc.render layout = .ok text ∧
      validateFile (.ok (Text.encodeUtf8 text.toList)) = .ok ⟨[], []⟩ := by
  obtain ⟨own, typed, calls, stages, rfl⟩ := RawGraph.assemble_eq_ok.1 assembled
  obtain ⟨nodes, edges⟩ := RawGraph.length_ofOctets read
  have methods := RawGraph.length_numberMethods stages.methods
  have short := Nat.le_trans methods (Nat.le_trans nodes addressable)
  have few := Nat.le_trans edges addressable
  have consistent := consistent_ofGraph product version timestamp depset stages.numbered short few
  have fits : Json.fitsDocument timestamp = true := by
    simp only [Json.fitsDocument, Bool.and_eq_true, decide_eq_true_eq]
    omega
  obtain ⟨text, written, back⟩ := ofOctets?_render
    (integers_ofGraph product version timestamp depset stages.numbered short fits) layout
    (show ∀ c ∈ ([] : List Char), Json.isSpace c = true by simp)
  refine ⟨_, text, build_of_writable (writable_of_numbered stages.numbered short few), written, ?_⟩
  rw [List.append_nil] at back
  obtain ⟨value, readBack, same⟩ := Option.map_eq_some_iff.1 back
  simp only [validateFile, readBack, same, consistent.validate]

/-- What an analyzer prints for `RawGraph.twiceListed`. -/
def twiceListedText : List Char := [
  "\x7b\"nodes\":[",
  "\x7b\"origin\":\"application\",\"id\":1,", "\"type\":\"La/T\",\"name\":\"g\",",
  "\"descriptor\":\"()V\"\x7d,",
  "\x7b\"origin\":\"application\",\"id\":2,", "\"type\":\"La/T\",\"name\":\"g\",",
  "\"descriptor\":\"()V\"\x7d,",
  "\x7b\"origin\":\"library\",\"id\":3,", "\"type\":\"Lb/U\",\"name\":\"h\",",
  "\"descriptor\":\"()V\"\x7d],",
  "\"edges\":[",
  "\x7b\"caller\":1,\"callee\":2,\"kind\":\"invokestatic\"\x7d,",
  "\x7b\"caller\":2,\"callee\":3,\"kind\":\"invokevirtual\"\x7d,",
  "\x7b\"caller\":2,\"callee\":3,\"kind\":\"invokevirtual\"\x7d]\x7d"].flatMap String.toList

theorem ofOctets_twiceListedText :
    RawGraph.ofOctets (Text.encodeUtf8 twiceListedText) = .ok RawGraph.twiceListed := by
  have parts : (RawGraph.ofOctets (Text.encodeUtf8 twiceListedText)).map
      (fun raw => (raw.nodes, raw.edges, raw.types)) = .ok (RawGraph.twiceListed.nodes,
        RawGraph.twiceListed.edges, RawGraph.twiceListed.types) := by decide +kernel
  obtain ⟨⟨nodes, edges, types, _, _⟩, read, same⟩ := Schema.Check.map_eq_ok.1 parts
  cases same
  exact read

section

open scoped Platform

theorem generated_document_valid_twice : ∃ graph, RawGraph.twiceListed.assemble = .ok graph ∧
    ∀ layout, ∃ doc text,
      build "g:a" "1.0" (-1) [[⟨"mvn", "g:b", [.pinned none], by decide⟩]] graph = .ok doc ∧
        doc.render layout = .ok text ∧
        validateFile (.ok (Text.encodeUtf8 text.toList)) = .ok ⟨[], []⟩ := by
  have assembled := RawGraph.assemble_eq_ok.2 ⟨_, _, _, RawGraph.twiceListed_stages, rfl⟩
  refine ⟨_, assembled, fun layout => ?_⟩
  exact generated_document_valid (by decide +kernel) ofOctets_twiceListedText assembled "g:a" "1.0"
    (by decide) (by decide) _ layout

end

end CallGraph.Revision
