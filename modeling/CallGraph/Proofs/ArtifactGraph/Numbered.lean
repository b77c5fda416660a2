import CallGraph.Proofs.ArtifactGraph.Operations
import Mathlib.Data.List.Nodup

/-! Call graphs whose methods are numbered in one list. Every method has its
place in the list as its number, and calls go between these numbers. -/
namespace CallGraph.ArtifactGraph

/-- The methods of the graph are those of a list, each under its own type and
with its place as its number; calls have such numbers at their ends, and each
counter has been moved, but not more often than there were calls. -/
structure Numbered (graph : ArtifactGraph) (methods : List MethodUri) (calls : Nat) : Prop where
  filed : ∀ type i method, graph.methodAt type i = some method ↔
    method.typeUri = type ∧ ∃ n : Nat, i = n ∧ methods[n]? = some method
  internal : ∀ call ∈ graph.internalCalls, ∀ i ∈ [call.1, call.2], ∃ n : Nat, i = n ∧
    n < methods.length
  external : ∀ key ∈ graph.externalCalls.keys, ∃ n : Nat, key.1 = n ∧ n < methods.length
  counted : ∀ caller callee kind n, graph.counter caller callee kind = some n → 0 < n ∧ n ≤ calls

/-- The numbers of the methods of each type. -/
def numberLists (graph : ArtifactGraph) : List (List Nat) :=
  graph.hierarchy.entries.map fun entry => entry.2.methods.keys.map Int.toNat

/-- How many methods the types have in all. -/
def methodCount (graph : ArtifactGraph) : Nat :=
  graph.hierarchy.weight fun known => known.methods.size

theorem length_numberLists (graph : ArtifactGraph) :
    graph.numberLists.flatten.length = graph.methodCount := by
  rw [numberLists, methodCount, Table.weight]
  induction graph.hierarchy.entries with
  | nil => rfl
  | cons entry rest ih =>
    rw [List.map_cons, List.flatten_cons, List.length_append, ih, List.foldr_cons, Table.size,
      Table.keys, List.length_map, List.length_map]

namespace Numbered

variable {graph : ArtifactGraph} {methods : List MethodUri} {calls : Nat}

theorem entry (numbered : Numbered graph methods calls) {type : TypeUri} {known : TypeMethods}
    (typeMem : (type, known) ∈ graph.hierarchy.entries) {i : Int} {method : MethodUri}
    (mem : (i, method) ∈ known.methods.entries) :
    method.typeUri = type ∧ ∃ n : Nat, i = n ∧ methods[n]? = some method :=
  (numbered.filed type i method).1 (methodAt_eq_some_iff.2 ⟨known, typeMem, mem⟩)

/-- A type has the numbers of the places at which its methods are listed. -/
theorem mem_numbers (numbered : Numbered graph methods calls) {type : TypeUri} {known : TypeMethods}
    (typeMem : (type, known) ∈ graph.hierarchy.entries) {n : Nat} :
    n ∈ known.methods.keys.map Int.toNat ↔
      ∃ method, methods[n]? = some method ∧ method.typeUri = type := by
  rw [Table.keys, List.map_map, List.mem_map]
  constructor
  · rintro ⟨⟨i, method⟩, mem, same⟩
    obtain ⟨declared, place, rfl, listed⟩ := numbered.entry typeMem mem
    obtain rfl : place = n := same
    exact ⟨method, listed, declared⟩
  · rintro ⟨method, listed, declared⟩
    obtain ⟨known', typeMem', mem⟩ :=
      methodAt_eq_some_iff.1 ((numbered.filed type n method).2 ⟨declared, n, rfl, listed⟩)
    obtain rfl : known' = known := by
      have found := Table.get?_eq_some_iff.2 typeMem'
      rw [Table.get?_eq_some_iff.2 typeMem] at found
      exact (Option.some.inj found).symm
    exact ⟨(n, method), mem, rfl⟩

/-- All numbers are the places in the list. -/
theorem mem_numberLists (numbered : Numbered graph methods calls) {n : Nat} :
    n ∈ graph.numberLists.flatten ↔ n < methods.length := by
  rw [numberLists, List.mem_flatten]
  constructor
  · rintro ⟨_, list, mem⟩
    obtain ⟨⟨type, known⟩, typeMem, rfl⟩ := List.mem_map.1 list
    obtain ⟨method, listed, -⟩ := (numbered.mem_numbers typeMem).1 mem
    exact (List.getElem?_eq_some_iff.1 listed).1
  · intro inside
    have listed : methods[n]? = some methods[n] := List.getElem?_eq_getElem inside
    obtain ⟨known, typeMem, -⟩ := methodAt_eq_some_iff.1
      ((numbered.filed methods[n].typeUri n methods[n]).2 ⟨rfl, n, rfl, listed⟩)
    exact ⟨_, List.mem_map.2 ⟨_, typeMem, rfl⟩,
      (numbered.mem_numbers typeMem).2 ⟨methods[n], listed, rfl⟩⟩

/-- No number is used twice, neither within a type nor by two types. -/
theorem numberLists_nodup (numbered : Numbered graph methods calls) :
    graph.numberLists.flatten.Nodup := by
  rw [List.nodup_flatten, numberLists, List.pairwise_map]
  constructor
  · intro list mem
    obtain ⟨⟨type, known⟩, typeMem, rfl⟩ := List.mem_map.1 mem
    rw [Table.keys, List.map_map]
    have distinct : known.methods.entries.Pairwise fun a b => a.1 ≠ b.1 :=
      List.pairwise_map.1 known.methods.nodup
    refine List.pairwise_map.2 (distinct.imp_of_mem fun {a b} memA memB apart same => apart ?_)
    obtain ⟨-, n, sameA, -⟩ := numbered.entry typeMem memA
    obtain ⟨-, m, sameB, -⟩ := numbered.entry typeMem memB
    rw [Function.comp_apply, Function.comp_apply, sameA, sameB] at same
    obtain rfl : n = m := same
    rw [sameA, sameB]
  · have distinct : graph.hierarchy.entries.Pairwise fun a b => a.1 ≠ b.1 :=
      List.pairwise_map.1 graph.hierarchy.nodup
    refine distinct.imp_of_mem fun {a b} memA memB apart n mem mem' => apart ?_
    obtain ⟨method, listed, declared⟩ := (numbered.mem_numbers memA).1 mem
    obtain ⟨method', listed', declared'⟩ := (numbered.mem_numbers memB).1 mem'
    rw [listed] at listed'
    rw [← declared, ← declared', Option.some.inj listed']

/-- There are as many methods as are listed. -/
theorem methodCount_eq (numbered : Numbered graph methods calls) :
    graph.methodCount = methods.length := by
  have places : graph.numberLists.flatten.Perm (List.range methods.length) :=
    (List.perm_ext_iff_of_nodup numbered.numberLists_nodup List.nodup_range).2 fun n => by
      rw [numbered.mem_numberLists, List.mem_range]
  rw [← length_numberLists, places.length_eq, List.length_range]

end Numbered

end CallGraph.ArtifactGraph
