import CallGraph.Proofs.Jvm.ClassFile
import CallGraph.Proofs.RawGraph.Numbered
import Mathlib.Data.Finset.Card

/-! Methods that share a number. A raw graph may name one method at several
nodes and spell its name in several ways, and all these nodes have one number.
Nodes whose references differ in more than the spellings that have one URI have
different numbers, so the artifact has as many methods as there are such
references. -/
namespace CallGraph
open Jvm (MethodRef)

/-- The node spells the reference as class files do. -/
structure MethodNode.Refers (node : MethodNode) (ref : MethodRef) : Prop where
  declarer : node.typeName = ref.declarer.text
  name : node.name = ref.name
  descriptor : node.descriptor = ref.descriptor

/-- The graph has filed the method that a node names under the number. -/
def ArtifactGraph.HasNumber (graph : ArtifactGraph) (node : MethodNode) (i : Int) : Prop :=
  ∃ method, node.method none = .ok method ∧ graph.methodAt method.typeUri i = some method

namespace RawGraph

variable {graph : RawGraph} {own : List (Int × MethodUri)} {typed result : ArtifactGraph}
  {calls : List (Option Call)}

/-- The nodes that name the artifact's own methods. -/
def ownNodes (graph : RawGraph) : List MethodNode :=
  graph.nodes.filter fun node => node.origin = .application

theorem mem_ownNodes {node : MethodNode} :
    node ∈ graph.ownNodes ↔ node ∈ graph.nodes ∧ node.origin = .application := by
  simp [ownNodes]

/-- Nodes name one method exactly if their references have one merged spelling. -/
theorem method_eq_iff {a b : MethodNode} {refA refB : MethodRef} {method method' : MethodUri}
    (refersA : a.Refers refA) (refersB : b.Refers refB) (namedA : a.method none = .ok method)
    (namedB : b.method none = .ok method') : method = method' ↔ refA.merged = refB.merged := by
  rw [MethodNode.method, refersA.declarer, refersA.name, refersA.descriptor] at namedA
  rw [MethodNode.method, refersB.declarer, refersB.name, refersB.descriptor] at namedB
  exact MethodRef.eq_iff_merged namedA namedB

namespace Stages

theorem hasNumber_iff (stages : Stages graph own typed calls) {node : MethodNode} {i : Int} :
    (enterCalls typed (calls.filterMap id)).HasNumber node i ↔
      ∃ method, node.method none = .ok method ∧
        ∃ n : Nat, i = n ∧ (numberMethods (own.map Prod.snd))[n]? = some method := by
  simp only [ArtifactGraph.HasNumber, stages.methodAt_enterCalls, true_and]

/-- Where the methods are read, each node of the artifact names one. -/
theorem exists_method (stages : Stages graph own typed calls) {node : MethodNode}
    (mem : node ∈ graph.ownNodes) : ∃ method, node.method none = .ok method := by
  obtain ⟨nodeMem, origin⟩ := mem_ownNodes.1 mem
  obtain ⟨method, -, named, -⟩ := exists_number stages.methods nodeMem origin
  exact ⟨method, named⟩

/-- A node of the artifact has one number. -/
theorem existsUnique_number (stages : Stages graph own typed calls) {node : MethodNode}
    (mem : node ∈ graph.ownNodes) :
    ∃! i, (enterCalls typed (calls.filterMap id)).HasNumber node i := by
  obtain ⟨nodeMem, origin⟩ := mem_ownNodes.1 mem
  obtain ⟨method, number, named, place⟩ := exists_number stages.methods nodeMem origin
  refine ⟨number, stages.hasNumber_iff.2 ⟨method, named, number, rfl, place⟩, ?_⟩
  intro i has
  obtain ⟨method', named', n, rfl, place'⟩ := stages.hasNumber_iff.1 has
  obtain rfl := Except.ok.inj (named'.symm.trans named)
  have inside := (List.getElem?_eq_some_iff.1 place').1
  have same := (List.getElem?_inj inside (numberMethods_nodup _)).1 (place'.trans place.symm)
  rw [same]

/-- Nodes of the artifact have a common number exactly if they name one method. -/
theorem common_number_iff (stages : Stages graph own typed calls) {a b : MethodNode}
    (memA : a ∈ graph.ownNodes) {method method' : MethodUri} (namedA : a.method none = .ok method)
    (namedB : b.method none = .ok method') :
    (∃ i, (enterCalls typed (calls.filterMap id)).HasNumber a i ∧
      (enterCalls typed (calls.filterMap id)).HasNumber b i) ↔ method = method' := by
  constructor
  · rintro ⟨i, hasA, hasB⟩
    obtain ⟨_, namedA', n, rfl, placeA⟩ := stages.hasNumber_iff.1 hasA
    obtain ⟨_, namedB', m, same, placeB⟩ := stages.hasNumber_iff.1 hasB
    obtain rfl := Except.ok.inj (namedA.symm.trans namedA')
    obtain rfl := Except.ok.inj (namedB.symm.trans namedB')
    obtain rfl : n = m := Int.ofNat_inj.1 same
    exact Option.some.inj (placeA.symm.trans placeB)
  · rintro rfl
    obtain ⟨i, has, -⟩ := stages.existsUnique_number memA
    obtain ⟨_, named, number⟩ := stages.hasNumber_iff.1 has
    obtain rfl := Except.ok.inj (namedA.symm.trans named)
    exact ⟨i, has, stages.hasNumber_iff.2 ⟨_, namedB, number⟩⟩

/-- The numbered methods are those that nodes of the artifact name. -/
theorem mem_numberMethods (stages : Stages graph own typed calls) {method : MethodUri} :
    method ∈ numberMethods (own.map Prod.snd) ↔
      ∃ node ∈ graph.ownNodes, node.method none = .ok method := by
  rw [RawGraph.mem_numberMethods, List.mem_map]
  constructor
  · rintro ⟨⟨id, _⟩, entry, rfl⟩
    obtain ⟨node, mem, origin, -, named⟩ := (mem_own stages.methods).1 entry
    exact ⟨node, mem_ownNodes.2 ⟨mem, origin⟩, named⟩
  · rintro ⟨node, mem, named⟩
    obtain ⟨nodeMem, origin⟩ := mem_ownNodes.1 mem
    exact ⟨(node.id, method), (mem_own stages.methods).2 ⟨node, nodeMem, origin, rfl, named⟩, rfl⟩

/-- There are as many numbers as merged spellings of references. -/
theorem length_numberMethods_eq (stages : Stages graph own typed calls)
    {ref : MethodNode → MethodRef} (refers : ∀ node ∈ graph.ownNodes, node.Refers (ref node)) :
    (numberMethods (own.map Prod.snd)).length =
      (graph.ownNodes.map fun node => (ref node).merged).toFinset.card := by
  rw [← List.toFinset_card_of_nodup (numberMethods_nodup _)]
  choose node mem named using fun (method : MethodUri) (numbered : method ∈ _) =>
    stages.mem_numberMethods.1 (List.mem_toFinset.1 numbered)
  apply Finset.card_bij fun method numbered => (ref (node method numbered)).merged
  · intro method numbered
    exact List.mem_toFinset.2 (List.mem_map.2 ⟨_, mem method numbered, rfl⟩)
  · intro method numbered method' numbered' same
    exact (method_eq_iff (refers _ (mem method numbered)) (refers _ (mem method' numbered'))
      (named method numbered) (named method' numbered')).2 same
  · intro merged listed
    obtain ⟨node', mem', rfl⟩ := List.mem_map.1 (List.mem_toFinset.1 listed)
    obtain ⟨method, named'⟩ := stages.exists_method mem'
    have numbered := List.mem_toFinset.2 (stages.mem_numberMethods.2 ⟨node', mem', named'⟩)
    exact ⟨method, numbered, (method_eq_iff (refers _ (mem method numbered)) (refers _ mem')
      (named method numbered) named').1 rfl⟩

end Stages

/-! A graph in which different methods share numbers. -/

/-- Pairs of nodes whose references have one merged spelling. -/
def sharingPairs : List (MethodNode × MethodNode) :=
  [(⟨.application, 0, "La/T", "<init>", "()V"⟩, ⟨.application, 1, "La/T", "T", "()V"⟩),
    (⟨.application, 2, "LT", "f", "()V"⟩, ⟨.application, 3, "L(default)/T", "f", "()V"⟩),
    (⟨.application, 4, "La/T", "g", "(I)V"⟩,
      ⟨.application, 5, "La/T", "g", "(Ljava/lang/IntType;)V"⟩)]

def sharing : RawGraph where
  nodes := sharingPairs.flatMap fun pair => [pair.1, pair.2]
  edges := []
  types := ∅
  nodup := by decide
  closed := by decide

/-- The reference that a node of `sharing` spells. -/
def sharingRef (node : MethodNode) : MethodRef :=
  let inPackage : Jvm.ClassName := ⟨[⟨"a", by decide⟩], ⟨"T", by decide⟩⟩
  let void : Jvm.FieldType := .primitive ⟨'V', by decide⟩
  let int : Jvm.Letter := ⟨'I', by decide⟩
  match node.id with
  | 0 => ⟨inPackage, "<init>", [], void⟩
  | 1 => ⟨inPackage, "T", [], void⟩
  | 2 => ⟨⟨[], ⟨"T", by decide⟩⟩, "f", [], void⟩
  | 3 => ⟨⟨[Jvm.Segment.default], ⟨"T", by decide⟩⟩, "f", [], void⟩
  | 4 => ⟨inPackage, "g", [.primitive int], void⟩
  | _ => ⟨inPackage, "g", [.reference int.className], void⟩

theorem sharing_refers : ∀ node ∈ sharing.ownNodes, node.Refers (sharingRef node) := by
  have spelled : ∀ node ∈ sharing.ownNodes, node.typeName = (sharingRef node).declarer.text ∧
      node.name = (sharingRef node).name ∧ node.descriptor = (sharingRef node).descriptor := by
    decide +kernel
  intro node mem
  obtain ⟨declarer, name, descriptor⟩ := spelled node mem
  exact ⟨declarer, name, descriptor⟩

theorem sharing_stages : ∃ own,
    Stages sharing own (fileMethods ∅ 0 (numberMethods (own.map Prod.snd))) [] := by
  obtain ⟨own, read⟩ : ∃ own, sharing.applicationMethods = .ok own := by
    have succeeds : sharing.applicationMethods.isOk = true := by decide +kernel
    cases read : sharing.applicationMethods with
    | ok own => exact ⟨own, rfl⟩
    | error defect => simp [read, Except.isOk, Except.toBool] at succeeds
  exact ⟨own, read, rfl, rfl⟩

/-- **Only three pairs of spellings share a number.** Where the artifact's nodes
spell their references as class files do, each node has one number; two nodes
have a common number exactly if their references are the same once constructors
have the names of their classes, the unnamed package is `(default)` and primitive
types are the classes of `java.lang`; and there are as many methods as references
are left then. -/
theorem assemble_distinct {ref : MethodNode → MethodRef} (assembled : graph.assemble = .ok result)
    (refers : ∀ node ∈ graph.ownNodes, node.Refers (ref node)) :
    (∀ node ∈ graph.ownNodes, ∃! i, result.HasNumber node i) ∧
    (∀ a ∈ graph.ownNodes, ∀ b ∈ graph.ownNodes,
      (∃ i, result.HasNumber a i ∧ result.HasNumber b i) ↔ (ref a).merged = (ref b).merged) ∧
    result.methodCount = (graph.ownNodes.map fun node => (ref node).merged).toFinset.card := by
  obtain ⟨own, typed, calls, stages, rfl⟩ := assemble_eq_ok.1 assembled
  refine ⟨fun node mem => stages.existsUnique_number mem, ?_, ?_⟩
  · intro a memA b memB
    obtain ⟨method, namedA⟩ := stages.exists_method memA
    obtain ⟨method', namedB⟩ := stages.exists_method memB
    rw [stages.common_number_iff memA namedA namedB]
    exact method_eq_iff (refers a memA) (refers b memB) namedA namedB
  · rw [stages.numbered.methodCount_eq, stages.length_numberMethods_eq refers]

theorem assemble_distinct_sharing : ∃ result, sharing.assemble = .ok result ∧
    (∀ node ∈ sharing.ownNodes, node.Refers (sharingRef node)) ∧
    (∀ node ∈ sharing.ownNodes, ∃! i, result.HasNumber node i) ∧
    (∀ a ∈ sharing.ownNodes, ∀ b ∈ sharing.ownNodes,
      (∃ i, result.HasNumber a i ∧ result.HasNumber b i) ↔
        (sharingRef a).merged = (sharingRef b).merged) ∧
    result.methodCount =
      (sharing.ownNodes.map fun node => (sharingRef node).merged).toFinset.card := by
  obtain ⟨own, stages⟩ := sharing_stages
  have assembled := assemble_eq_ok.2 ⟨_, _, _, stages, rfl⟩
  exact ⟨_, assembled, sharing_refers, assemble_distinct assembled sharing_refers⟩

/-- A constructor and a method with the name of its class, the same class with
and without a package, a primitive type and its class: each two are different
references, and they share a number. -/
theorem sharing_collapses : ∃ result, sharing.assemble = .ok result ∧
    (∀ node ∈ sharing.ownNodes, node.Refers (sharingRef node)) ∧
    (sharing.ownNodes.map fun node => (node.typeName, node.name, node.descriptor)).Nodup ∧
    (∀ pair ∈ sharingPairs, ∃ i, result.HasNumber pair.1 i ∧ result.HasNumber pair.2 i) ∧
    result.methodCount = 3 := by
  obtain ⟨own, stages⟩ := sharing_stages
  refine ⟨_, assemble_eq_ok.2 ⟨_, _, _, stages, rfl⟩, sharing_refers, by decide, ?_, ?_⟩
  · intro pair listed
    have mem : pair.1 ∈ sharing.ownNodes ∧ pair.2 ∈ sharing.ownNodes := by
      revert pair
      decide
    have alike : pair.1.method none = pair.2.method none := by
      revert pair
      decide +kernel
    obtain ⟨method, named⟩ := stages.exists_method mem.1
    exact (stages.common_number_iff mem.1 named (alike.symm.trans named)).2 rfl
  · rw [stages.numbered.methodCount_eq, stages.length_numberMethods_eq sharing_refers]
    decide +kernel

end RawGraph
end CallGraph
