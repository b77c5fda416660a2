import CallGraph.Proofs.ArtifactGraph.Blocks
import CallGraph.Proofs.RawGraph.Distinct

/-! The order of the assembled hierarchy. Methods are filed in the order of their
numbers, which is the order of their types, and neither facts on types nor calls
file another type or method. So the hierarchy lists the types in order, and the
numbers run through it without a gap. -/
namespace CallGraph.RawGraph
open Listing ArtifactGraph

variable {graph : RawGraph} {own : List (Int × MethodUri)} {typed result : ArtifactGraph}
  {calls : List (Option Call)}

/-- In the order of the numbers types come one after the other, and so do the
methods of one type. -/
theorem numberMethods_increasing (methods : List MethodUri) :
    (numberMethods methods).Pairwise fun a b => numberingKey a < numberingKey b :=
  pairwise_mergeSort_lt numberedBefore_iff numberingKey_injective methods

/-- Methods that come in the order of their types are filed in blocks, with
numbers that go on from those in use. -/
theorem inBlocks_fileMethods {graph : ArtifactGraph} {before rest : List MethodUri}
    (filed : InBlocks graph.blocks before)
    (ordered : (before ++ rest).Pairwise fun a b => a.typeUri.text ≤ b.typeUri.text) :
    InBlocks (fileMethods graph before.length rest).blocks (before ++ rest) := by
  induction rest generalizing graph before with
  | nil => rwa [List.append_nil]
  | cons next rest ih =>
    have after : ∀ method ∈ before, method.typeUri.text ≤ next.typeUri.text := fun method mem =>
      (List.pairwise_append.1 ordered).2.2 method mem next List.mem_cons_self
    rw [← List.singleton_append, ← List.append_assoc] at ordered
    have grown := ih (filed.addMethod after) ordered
    rwa [List.length_append, List.length_singleton, List.append_assoc] at grown

/-- Facts are attached to known types only, so they move no method. -/
theorem blocks_attachFacts {before after : ArtifactGraph} {name : String} {facts : TypeFacts}
    (attached : attachFacts before name facts = .ok after) : after.blocks = before.blocks := by
  obtain ⟨type, -, attached⟩ := bind_eq_ok.1 attached
  split at attached
  · next known =>
    obtain ⟨supertypes, -, same⟩ := bind_eq_ok.1 attached
    obtain rfl := Except.ok.inj same
    exact blocks_setSupertypes (Table.contains_iff.1 known) supertypes
  · obtain rfl := Except.ok.inj attached
    rfl

theorem Stages.blocks_typed (stages : Stages graph own typed calls) :
    typed.blocks = (fileMethods ∅ 0 (numberMethods (own.map Prod.snd))).blocks :=
  foldlM_keeps
    (p := fun g => g.blocks = (fileMethods ∅ 0 (numberMethods (own.map Prod.snd))).blocks)
    (fun _ _ _ _ attached same => (blocks_attachFacts attached).trans same) stages.facts rfl

/-- The assembled graph holds the artifact's methods in blocks. -/
theorem Stages.inBlocks (stages : Stages graph own typed calls) :
    InBlocks (enterCalls typed (calls.filterMap id)).blocks (numberMethods (own.map Prod.snd)) := by
  have filed : InBlocks (fileMethods ∅ 0 (numberMethods (own.map Prod.snd))).blocks
      (numberMethods (own.map Prod.snd)) := by
    refine inBlocks_fileMethods InBlocks.nothing ((numberMethods_increasing _).imp ?_)
    intro a b less
    rcases Prod.Lex.toLex_lt_toLex.1 less with type | ⟨type, -⟩
    · exact type.le
    · exact type.le
  rw [blocks, hierarchy_enterCalls, ← blocks, stages.blocks_typed]
  exact filed

/-- The methods that the nodes of the artifact name. -/
def ownMethods (graph : RawGraph) : List MethodUri :=
  graph.ownNodes.filterMap fun node => (node.method none).toOption

theorem mem_ownMethods {method : MethodUri} :
    method ∈ graph.ownMethods ↔ ∃ node ∈ graph.ownNodes, node.method none = .ok method := by
  simp only [ownMethods, List.mem_filterMap, toOption_eq_some_iff]

/-- The numbered methods are the distinct methods of the artifact. -/
theorem Stages.length_numberMethods_card (stages : Stages graph own typed calls) :
    (numberMethods (own.map Prod.snd)).length = graph.ownMethods.toFinset.card := by
  rw [← List.toFinset_card_of_nodup (numberMethods_nodup _)]
  refine congrArg Finset.card (List.toFinset.ext fun method => ?_)
  rw [stages.mem_numberMethods, mem_ownMethods]

/-- The numbers run through the hierarchy from 0 on. -/
theorem Stages.methodIds_enterCalls (stages : Stages graph own typed calls) :
    (enterCalls typed (calls.filterMap id)).methodIds =
      (List.range (numberMethods (own.map Prod.snd)).length).map Int.ofNat :=
  (methodIds_eq _).trans stages.inBlocks.numbers

theorem Stages.mem_methodIds (stages : Stages graph own typed calls) {i : Int}
    (number : ∃ n : Nat, i = n ∧ n < (numberMethods (own.map Prod.snd)).length) :
    i ∈ (enterCalls typed (calls.filterMap id)).methodIds := by
  obtain ⟨n, rfl, inside⟩ := number
  rw [stages.methodIds_enterCalls]
  exact List.mem_map.2 ⟨n, List.mem_range.2 inside, rfl⟩

/-- Where types are the same, the order of the numbers is that of the URIs. -/
theorem Stages.texts_increase (stages : Stages graph own typed calls)
    {block : TypeUri × List (Int × MethodUri)}
    (mem : block ∈ (enterCalls typed (calls.filterMap id)).blocks) :
    block.2.Pairwise fun a b => a.2.text < b.2.text := by
  have along := stages.inBlocks.pairwise_block (numberMethods_increasing _) mem
  refine along.imp_of_mem fun {a b} memA memB less => ?_
  have sameType : a.2.typeUri = b.2.typeUri :=
    (stages.inBlocks.own block mem a memA).trans (stages.inBlocks.own block mem b memB).symm
  rcases Prod.Lex.toLex_lt_toLex.1 less with apart | ⟨-, text⟩
  · exact absurd (sameType ▸ apart) (lt_irrefl _)
  · exact text

/-- The hierarchy lists the types of methods in order and numbers the methods as
it goes. Calls have no other numbers at their ends. -/
structure InOrder (result : ArtifactGraph) (methods : List MethodUri) : Prop where
  types : ∀ type, type ∈ result.hierarchy.keys ↔ ∃ method ∈ methods, method.typeUri = type
  typesIncrease : result.hierarchy.keys.Pairwise fun a b => a.text < b.text
  filed : ∀ method, method ∈ methods ↔ ∃ type ∈ result.hierarchy.entries,
    ∃ entry ∈ type.2.methods.entries, entry.2 = method
  numbers : result.methodIds = (List.range methods.toFinset.card).map Int.ofNat
  contiguous : ∀ type ∈ result.hierarchy.entries, ∃ first,
    type.2.methods.keys = (List.range' first type.2.methods.size).map Int.ofNat
  methodsIncrease : ∀ type ∈ result.hierarchy.entries,
    type.2.methods.entries.Pairwise fun a b => a.2.text < b.2.text
  own : ∀ type ∈ result.hierarchy.entries, ∀ entry ∈ type.2.methods.entries,
    entry.2.typeUri = type.1
  internal : ∀ call ∈ result.internalCalls, ∀ i ∈ [call.1, call.2], i ∈ result.methodIds
  external : ∀ key ∈ result.externalCalls.keys, key.1 ∈ result.methodIds

/-- **Numbers run through the hierarchy.** Where a raw graph is assembled, the
types are those that declare methods of the artifact, in the order of their URIs.
The numbers from 0 on go to the methods in the order of the hierarchy, which is
also that of their URIs inside a type, and calls go between these numbers. -/
theorem assemble_inOrder (assembled : graph.assemble = .ok result) :
    InOrder result graph.ownMethods := by
  obtain ⟨own, typed, calls, stages, rfl⟩ := assemble_eq_ok.1 assembled
  have filed := stages.inBlocks
  have same : ∀ method, method ∈ numberMethods (own.map Prod.snd) ↔ method ∈ graph.ownMethods :=
    fun method => stages.mem_numberMethods.trans mem_ownMethods.symm
  have block : ∀ {type}, type ∈ (enterCalls typed (calls.filterMap id)).hierarchy.entries →
      (type.1, type.2.methods.entries) ∈ (enterCalls typed (calls.filterMap id)).blocks :=
    fun mem => List.mem_map_of_mem mem
  constructor
  case types =>
    intro type
    rw [← map_fst_blocks, filed.mem_types]
    simp only [same]
  case typesIncrease =>
    rw [← map_fst_blocks]
    exact filed.increasing
  case filed =>
    intro method
    rw [← same, filed.mem_methods, blocks]
    simp only [List.mem_map, exists_exists_and_eq_and]
  case numbers => rw [stages.methodIds_enterCalls, stages.length_numberMethods_card]
  case contiguous => exact fun type mem => filed.numbers_contiguous (block mem)
  case methodsIncrease => exact fun type mem => stages.texts_increase (block mem)
  case own => exact fun type mem => filed.own _ (block mem)
  case internal =>
    exact fun call mem i ends => stages.mem_methodIds (stages.numbered.internal call mem i ends)
  case external => exact fun key mem => stages.mem_methodIds (stages.numbered.external key mem)

theorem assemble_inOrder_sharing : ∃ result, sharing.assemble = .ok result ∧
    InOrder result sharing.ownMethods := by
  obtain ⟨own, stages⟩ := sharing_stages
  have assembled := assemble_eq_ok.2 ⟨_, _, _, stages, rfl⟩
  exact ⟨_, assembled, assemble_inOrder assembled⟩

end CallGraph.RawGraph
