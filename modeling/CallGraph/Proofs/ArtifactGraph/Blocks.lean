import CallGraph.Proofs.ArtifactGraph.Operations
import CallGraph.Proofs.Listing
import CallGraph.Proofs.Revision.Build
import Mathlib.Data.List.Basic
import Mathlib.Data.String.Basic

/-! Methods filed in the order of their types. When the types of the methods
come in order, a method either belongs to the last type of the graph or opens a
new type after it. Each type then has its methods in one block, and the blocks
one after the other are the list of methods. -/
namespace CallGraph.ArtifactGraph

/-- The types with their numbered methods. -/
def blocks (graph : ArtifactGraph) : List (TypeUri × List (Int × MethodUri)) :=
  graph.hierarchy.entries.map fun entry => (entry.1, entry.2.methods.entries)

theorem map_fst_blocks (graph : ArtifactGraph) :
    graph.blocks.map Prod.fst = graph.hierarchy.keys := by
  simp [blocks, Table.keys, Function.comp_def]

/-- The numbers of all methods, in the order of the hierarchy. -/
def methodIds (graph : ArtifactGraph) : List Int :=
  graph.hierarchy.entries.flatMap fun type => type.2.methods.keys

theorem methodIds_eq (graph : ArtifactGraph) :
    graph.methodIds = graph.blocks.flatMap fun block => block.2.map Prod.fst := by
  rw [methodIds, blocks, List.flatMap_map]
  rfl

/-- A method of a new type opens a block. -/
theorem blocks_addMethod_new {graph : ArtifactGraph} {method : MethodUri}
    (new : method.typeUri ∉ graph.hierarchy.keys) (id : Int) :
    (graph.addMethod id method).blocks = graph.blocks ++ [(method.typeUri, [(id, method)])] := by
  rw [blocks, addMethod, updateType, Table.update]
  simp only [Table.updateEntries_new new, List.map_append]
  rfl

/-- A method of the last type comes after its other methods. -/
theorem blocks_addMethod_last {graph : ArtifactGraph} {method : MethodUri}
    {front : List (TypeUri × List (Int × MethodUri))} {listed : List (Int × MethodUri)}
    (last : graph.blocks = front ++ [(method.typeUri, listed)]) {id : Int}
    (fresh : id ∉ listed.map Prod.fst) :
    (graph.addMethod id method).blocks = front ++ [(method.typeUri, listed ++ [(id, method)])] := by
  obtain ⟨before, after, split, frontSame, lastSame⟩ := List.map_eq_append_iff.1 last
  obtain ⟨⟨type, known⟩, rfl, same⟩ := List.map_eq_singleton_iff.1 lastSame
  obtain ⟨rfl, rfl⟩ := Prod.mk.inj same
  have absent : method.typeUri ∉ before.map Prod.fst := by
    have distinct := graph.hierarchy.nodup
    rw [split, List.map_append, List.nodup_append] at distinct
    exact fun mem => distinct.2.2 _ mem _ (by simp) rfl
  have inserted :
      (known.methods.insert id method).entries = known.methods.entries ++ [(id, method)] :=
    Table.updateEntries_new fresh
  rw [blocks, addMethod, updateType, Table.update]
  simp only [split, Table.updateEntries_append absent, Table.updateEntries, if_true,
    List.map_append, frontSame, List.map_cons, List.map_nil, Option.getD_some, inserted]

/-- What is said of the supertypes of a known type moves no method. -/
theorem blocks_setSupertypes {graph : ArtifactGraph} {type : TypeUri}
    (known : type ∈ graph.hierarchy.keys) (supertypes : Supertypes) :
    (graph.setSupertypes type supertypes).blocks = graph.blocks := by
  rw [blocks, setSupertypes, updateType, Table.update]
  exact Table.map_updateEntries (fun known : TypeMethods => known.methods.entries) known
    fun _ => rfl

/-- The blocks hold the methods of a list in its order, with their places as
numbers. Each has methods of its own type only, and the types increase. -/
structure InBlocks (blocks : List (TypeUri × List (Int × MethodUri))) (methods : List MethodUri) :
    Prop where
  listed : blocks.flatMap Prod.snd = methods.zipIdx.map fun entry => ((entry.2 : Int), entry.1)
  own : ∀ block ∈ blocks, ∀ entry ∈ block.2, entry.2.typeUri = block.1
  inhabited : ∀ block ∈ blocks, block.2 ≠ []
  increasing : (blocks.map Prod.fst).Pairwise fun a b => a.text < b.text

namespace InBlocks

variable {blocks : List (TypeUri × List (Int × MethodUri))} {methods : List MethodUri}

theorem nothing : InBlocks (∅ : ArtifactGraph).blocks [] :=
  ⟨rfl, fun _ mem => (List.not_mem_nil mem).elim, fun _ mem => (List.not_mem_nil mem).elim, .nil⟩

theorem numbers (filed : InBlocks blocks methods) :
    blocks.flatMap (fun block => block.2.map Prod.fst) =
      (List.range methods.length).map Int.ofNat := by
  rw [← List.map_flatMap, filed.listed, List.map_map, List.range_eq_range', ← List.zipIdx_map_snd,
    List.map_map]
  rfl

theorem values (filed : InBlocks blocks methods) :
    blocks.flatMap (fun block => block.2.map Prod.snd) = methods := by
  rw [← List.map_flatMap, filed.listed, List.map_map]
  exact List.zipIdx_map_fst 0 methods

/-- The methods in blocks are those of the list. -/
theorem mem_methods (filed : InBlocks blocks methods) {method : MethodUri} :
    method ∈ methods ↔ ∃ block ∈ blocks, ∃ entry ∈ block.2, entry.2 = method := by
  conv_lhs => rw [← filed.values]
  simp only [List.mem_flatMap, List.mem_map]

/-- There is a block for each type of a method. -/
theorem mem_types (filed : InBlocks blocks methods) {type : TypeUri} :
    type ∈ blocks.map Prod.fst ↔ ∃ method ∈ methods, method.typeUri = type := by
  constructor
  · intro mem
    obtain ⟨block, blockMem, rfl⟩ := List.mem_map.1 mem
    obtain ⟨entry, entryMem⟩ := List.exists_mem_of_ne_nil _ (filed.inhabited block blockMem)
    exact ⟨entry.2, filed.mem_methods.2 ⟨block, blockMem, entry, entryMem, rfl⟩,
      filed.own block blockMem entry entryMem⟩
  · rintro ⟨method, mem, rfl⟩
    obtain ⟨block, blockMem, entry, entryMem, rfl⟩ := filed.mem_methods.1 mem
    exact List.mem_map.2 ⟨block, blockMem, (filed.own block blockMem entry entryMem).symm⟩

/-- The numbers of one block have no gap. -/
theorem numbers_contiguous (filed : InBlocks blocks methods)
    {block : TypeUri × List (Int × MethodUri)} (mem : block ∈ blocks) :
    ∃ first, block.2.map Prod.fst = (List.range' first block.2.length).map Int.ofNat := by
  have row : (blocks.map fun block => block.2.map Prod.fst).flatten =
      (List.range' 0 methods.length).map Int.ofNat := by
    rw [← List.flatMap_def, filed.numbers, List.range_eq_range']
  obtain ⟨first, same⟩ := Listing.exists_piece_of_row row (List.mem_map_of_mem mem)
  rw [List.length_map] at same
  exact ⟨first, same⟩

/-- What holds along the list holds along each block. -/
theorem pairwise_block (filed : InBlocks blocks methods) {r : MethodUri → MethodUri → Prop}
    (along : methods.Pairwise r) {block : TypeUri × List (Int × MethodUri)} (mem : block ∈ blocks) :
    block.2.Pairwise fun a b => r a.2 b.2 := by
  have piece : block.2.map Prod.snd ∈ blocks.map fun block => block.2.map Prod.snd :=
    List.mem_map.2 ⟨block, mem, rfl⟩
  rw [← filed.values, List.flatMap_def] at along
  exact List.pairwise_map.1 (along.sublist (List.sublist_flatten_of_mem piece))

theorem fresh (filed : InBlocks blocks methods) {block : TypeUri × List (Int × MethodUri)}
    (mem : block ∈ blocks) : (methods.length : Int) ∉ block.2.map Prod.fst := by
  intro used
  have number : (methods.length : Int) ∈ blocks.flatMap fun block => block.2.map Prod.fst :=
    List.mem_flatMap.2 ⟨block, mem, used⟩
  rw [filed.numbers] at number
  obtain ⟨n, inside, same⟩ := List.mem_map.1 number
  have := List.mem_range.1 inside
  have := Int.ofNat.inj same
  omega

/-- A type that no method goes beyond, and that has a block, has the last one. -/
theorem last (filed : InBlocks blocks methods) {type : TypeUri}
    (after : ∀ method ∈ methods, method.typeUri.text ≤ type.text)
    (known : type ∈ blocks.map Prod.fst) :
    ∃ front listed, blocks = front ++ [(type, listed)] := by
  obtain ⟨⟨type, listed⟩, mem, rfl⟩ := List.mem_map.1 known
  obtain ⟨front, back, rfl⟩ := List.append_of_mem mem
  cases back with
  | nil => exact ⟨front, listed, rfl⟩
  | cons next more =>
    have beyond : type.text < next.1.text := by
      have increasing := filed.increasing
      rw [List.map_append, List.map_cons, List.map_cons, List.pairwise_append] at increasing
      exact List.rel_of_pairwise_cons increasing.2.1 List.mem_cons_self
    obtain ⟨method, methodMem, declared⟩ := filed.mem_types.1
      (List.mem_map.2 ⟨next, by simp, rfl⟩)
    exact absurd beyond (not_lt.2 (declared ▸ after method methodMem))

/-- Methods in blocks, but for those of the last type, go on with that type's
methods and one more. -/
theorem grown {front back : List (TypeUri × List (Int × MethodUri))} {next : MethodUri}
    (filed : InBlocks (front ++ back) methods)
    (own : ∀ entry ∈ back.flatMap Prod.snd, entry.2.typeUri = next.typeUri)
    (before : ∀ block ∈ front, block.1.text < next.typeUri.text) :
    InBlocks (front ++ [(next.typeUri, back.flatMap Prod.snd ++ [((methods.length : Int), next)])])
      (methods ++ [next]) where
  listed := by
    rw [List.zipIdx_append, List.map_append, ← filed.listed]
    simp
  own := by
    intro block mem
    rcases List.mem_append.1 mem with earlier | last
    · exact filed.own block (List.mem_append_left _ earlier)
    · obtain rfl := List.mem_singleton.1 last
      intro entry entryMem
      rcases List.mem_append.1 entryMem with old | new
      · exact own entry old
      · rw [List.mem_singleton.1 new]
  inhabited := by
    intro block mem
    rcases List.mem_append.1 mem with earlier | last
    · exact filed.inhabited block (List.mem_append_left _ earlier)
    · rw [List.mem_singleton.1 last]
      exact List.concat_ne_nil _ _
  increasing := by
    have increasing := filed.increasing
    rw [List.map_append, List.pairwise_append] at increasing
    rw [List.map_append, List.map_singleton, List.pairwise_append]
    refine ⟨increasing.1, List.pairwise_singleton _ _, ?_⟩
    intro type mem last same
    obtain rfl := List.mem_singleton.1 same
    obtain ⟨block, blockMem, rfl⟩ := List.mem_map.1 mem
    exact before block blockMem

/-- The next number goes to a method whose type is the last one or comes after
it. -/
theorem addMethod {graph : ArtifactGraph} (filed : InBlocks graph.blocks methods)
    {next : MethodUri} (after : ∀ method ∈ methods, method.typeUri.text ≤ next.typeUri.text) :
    InBlocks (graph.addMethod methods.length next).blocks (methods ++ [next]) := by
  by_cases known : next.typeUri ∈ graph.blocks.map Prod.fst
  · obtain ⟨front, listed, split⟩ := filed.last after known
    have last : (next.typeUri, listed) ∈ graph.blocks := by simp [split]
    rw [blocks_addMethod_last split (filed.fresh last)]
    have own := filed.own _ last
    have increasing := filed.increasing
    rw [split] at filed increasing
    rw [List.map_append, List.pairwise_append] at increasing
    simpa using filed.grown (by simpa using own) fun block mem =>
      increasing.2.2 _ (List.mem_map_of_mem mem) _ List.mem_cons_self
  · have new : next.typeUri ∉ graph.hierarchy.keys := by rwa [← map_fst_blocks]
    have kept : InBlocks (graph.blocks ++ []) methods := by rwa [List.append_nil]
    rw [blocks_addMethod_new new]
    refine kept.grown (fun _ mem => (List.not_mem_nil mem).elim) fun block mem => ?_
    obtain ⟨method, methodMem, declared⟩ := filed.mem_types.1 (List.mem_map_of_mem mem)
    refine lt_of_le_of_ne (declared ▸ after method methodMem) fun same => known ?_
    rw [← TypeUri.text_injective same]
    exact List.mem_map_of_mem mem

end InBlocks

end CallGraph.ArtifactGraph
