import CallGraph.Proofs.RawGraph.Assembly
import CallGraph.Proofs.RawGraph.Calls
import CallGraph.Revision.Writer

/-! Analyzers list methods and calls in the order in which they come across
them and identify methods as they please. Two listings of the same methods and
calls are assembled into the same call graph, so their documents are the same
octet for octet. -/
namespace CallGraph

/-- The same method under another identifier. -/
def MethodNode.renamed (rename : Int → Int) (node : MethodNode) : MethodNode :=
  { node with id := rename node.id }

/-- The same call between the same methods under other identifiers. -/
def CallEdge.renamed (rename : Int → Int) (edge : CallEdge) : CallEdge :=
  { edge with caller := rename edge.caller, callee := rename edge.callee }

namespace RawGraph
open Listing

/-- The second graph lists the methods and calls of the first one in any order
and under other identifiers. That different methods have different identifiers
there is part of its being a graph. -/
structure Relisting (rename : Int → Int) (graph graph' : RawGraph) : Prop where
  nodes : (graph.nodes.map (MethodNode.renamed rename)).Perm graph'.nodes
  edges : (graph.edges.map (CallEdge.renamed rename)).Perm graph'.edges
  types : graph'.types = graph.types

variable {rename : Int → Int} {graph graph' : RawGraph} {own own' : List (Int × MethodUri)}
  {result : ArtifactGraph}

namespace Relisting

theorem injOn (relisting : Relisting rename graph graph') {a b : Int}
    (memA : a ∈ nodeIds graph.nodes) (memB : b ∈ nodeIds graph.nodes)
    (same : rename a = rename b) : a = b := by
  have distinct : ((nodeIds graph.nodes).map rename).Nodup := by
    have perm := relisting.nodes.map MethodNode.id
    rw [List.map_map] at perm
    have nodup := perm.nodup_iff.2 graph'.nodup
    rwa [nodeIds, List.map_map]
  exact List.inj_on_of_nodup_map distinct memA memB same

/-- The first graph relists the second one. -/
theorem symm (relisting : Relisting rename graph graph') :
    ∃ back, Relisting back graph' graph := by
  have inverse : ∀ a ∈ nodeIds graph.nodes,
      Function.invFunOn rename {a | a ∈ nodeIds graph.nodes} (rename a) = a := fun a mem => by
    have found := Function.invFunOn_apply_mem (f := rename) (s := {a | a ∈ nodeIds graph.nodes}) mem
    exact relisting.injOn found mem (Function.invFunOn_apply_eq (f := rename) (show a ∈ _ from mem))
  refine ⟨Function.invFunOn rename {a | a ∈ nodeIds graph.nodes}, ?_, ?_, relisting.types.symm⟩
  · refine (relisting.nodes.symm.map _).trans (.of_eq ?_)
    rw [List.map_map]
    refine (List.map_congr_left fun node mem => ?_).trans (List.map_id _)
    show { node with id := Function.invFunOn rename _ (rename node.id) } = node
    rw [inverse node.id (List.mem_map_of_mem mem)]
  · refine (relisting.edges.symm.map _).trans (.of_eq ?_)
    rw [List.map_map]
    refine (List.map_congr_left fun edge mem => ?_).trans (List.map_id _)
    show { edge with
      caller := Function.invFunOn rename _ (rename edge.caller)
      callee := Function.invFunOn rename _ (rename edge.callee) } = edge
    rw [inverse _ (graph.closed edge mem).1, inverse _ (graph.closed edge mem).2]

/-- An identifier stands for the same method in both graphs. -/
theorem node? (relisting : Relisting rename graph graph') {id : Int}
    (mem : id ∈ nodeIds graph.nodes) :
    graph'.node? (rename id) = (graph.node? id).map (MethodNode.renamed rename) := by
  obtain ⟨node, nodeMem, rfl⟩ := List.mem_map.1 mem
  rw [node?_eq_some_iff.2 ⟨nodeMem, rfl⟩]
  exact node?_eq_some_iff.2 ⟨relisting.nodes.mem_iff.1 (List.mem_map_of_mem nodeMem), rfl⟩

/-- The artifact's methods are the same, under other identifiers. -/
theorem applicationMethods (relisting : Relisting rename graph graph')
    (read : graph.applicationMethods = .ok own) : ∃ own', graph'.applicationMethods = .ok own' ∧
      (own.map fun entry => (rename entry.1, entry.2)).Perm own' := by
  refine mapM_translated (g := MethodNode.renamed rename) ?_ ?_ read
  · intro node entry _ first
    obtain ⟨method, named, same⟩ := bind_eq_ok.1 first
    obtain rfl := Except.ok.inj same
    exact bind_eq_ok.2 ⟨method, named, rfl⟩
  · have perm := relisting.nodes.filter fun node => decide (node.origin = .application)
    rw [List.filter_map] at perm
    exact perm

/-- An identifier has the same number in both graphs. -/
theorem number? (relisting : Relisting rename graph graph')
    (read : graph.applicationMethods = .ok own) (read' : graph'.applicationMethods = .ok own')
    (perm : (own.map fun entry => (rename entry.1, entry.2)).Perm own')
    (numbered : List MethodUri) {id : Int} (mem : id ∈ nodeIds graph.nodes) :
    RawGraph.number? own' numbered (rename id) = RawGraph.number? own numbered id := by
  have same : Table.lookup (rename id) own' = Table.lookup id own := by
    apply Option.ext
    intro method
    rw [Table.lookup_eq_some_iff (own_nodup read'), Table.lookup_eq_some_iff (own_nodup read),
      ← perm.mem_iff, List.mem_map]
    constructor
    · rintro ⟨⟨other, method⟩, entry, equal⟩
      obtain ⟨sameId, rfl⟩ := Prod.mk.inj equal
      obtain ⟨node, nodeMem, -, rfl, -⟩ := (mem_own read).1 entry
      rwa [← relisting.injOn (List.mem_map_of_mem nodeMem) mem sameId]
    · exact fun entry => ⟨_, entry, rfl⟩
  rw [RawGraph.number?, same, RawGraph.number?]

/-- A call is read as the same call in both graphs. -/
theorem readCall (relisting : Relisting rename graph graph') {number number' : Int → Option Nat}
    (same : ∀ id ∈ nodeIds graph.nodes, number' (rename id) = number id) {edge : CallEdge}
    (mem : edge ∈ graph.edges) :
    graph'.readCall number' (edge.renamed rename) = graph.readCall number edge := by
  obtain ⟨callerMem, calleeMem⟩ := graph.closed edge mem
  obtain ⟨-, node, -, found⟩ := exists_ends mem
  have found' : graph'.node? (rename edge.callee) = some (node.renamed rename) := by
    rw [relisting.node? calleeMem, found]
    rfl
  cases atCaller : number edge.caller with
  | none =>
    rw [readCall_unnumbered _ atCaller, readCall_unnumbered _ ((same _ callerMem).trans atCaller)]
  | some caller =>
    have atCaller' := (same _ callerMem).trans atCaller
    cases atCallee : number edge.callee with
    | some callee =>
      rw [readCall_internal _ atCaller atCallee,
        readCall_internal _ atCaller' ((same _ calleeMem).trans atCallee)]
    | none =>
      rw [readCall_external _ atCaller atCallee found,
        readCall_external (edge.renamed rename) atCaller' ((same _ calleeMem).trans atCallee) found']
      rfl

theorem assemble_eq_ok_of (relisting : Relisting rename graph graph')
    (assembled : graph.assemble = .ok result) : graph'.assemble = .ok result := by
  obtain ⟨own, typed, calls, stages, rfl⟩ := assemble_eq_ok.1 assembled
  obtain ⟨own', methods', perm⟩ := relisting.applicationMethods stages.methods
  have numbered : numberMethods (own'.map Prod.snd) = numberMethods (own.map Prod.snd) := by
    apply numberMethods_congr
    intro method
    rw [← (perm.map Prod.snd).mem_iff, List.map_map]
    rfl
  have readAlike : ∀ edge call, edge ∈ graph.edges →
      graph.readCall (RawGraph.number? own (numberMethods (own.map Prod.snd))) edge = .ok call →
      graph'.readCall (RawGraph.number? own' (numberMethods (own'.map Prod.snd)))
        (edge.renamed rename) = .ok (id call) := by
    intro edge call mem first
    rw [relisting.readCall (fun _ => relisting.number? stages.methods methods' perm _) mem, numbered]
    exact first
  obtain ⟨calls', read', callsPerm⟩ := mapM_translated readAlike relisting.edges stages.read
  rw [List.map_id] at callsPerm
  rw [enterCalls_perm typed (callsPerm.filterMap id)]
  refine assemble_eq_ok.2 ⟨own', typed, calls', ⟨methods', ?_, read'⟩, rfl⟩
  rw [relisting.types, numbered]
  exact stages.facts

end Relisting

/-- Two listings of the same methods and calls are assembled into the same call
graph or both not at all, and documents made of it are the same octet for
octet. -/
theorem assemble_relisted (relisting : Relisting rename graph graph') :
    (∀ result, graph.assemble = .ok result ↔ graph'.assemble = .ok result) ∧
    ∀ product version timestamp depset,
      (graph.assemble.toOption.map fun result =>
        (Revision.build product version timestamp depset result).map Revision.fileContents) =
      (graph'.assemble.toOption.map fun result =>
        (Revision.build product version timestamp depset result).map Revision.fileContents) ∧
      (graph.assemble.toOption.map fun result =>
        (Revision.build product version timestamp depset result).map Revision.line) =
      (graph'.assemble.toOption.map fun result =>
        (Revision.build product version timestamp depset result).map Revision.line) := by
  obtain ⟨back, relisting'⟩ := relisting.symm
  have same : ∀ result, graph.assemble = .ok result ↔ graph'.assemble = .ok result :=
    fun result => ⟨relisting.assemble_eq_ok_of, relisting'.assemble_eq_ok_of⟩
  have sameOption : graph.assemble.toOption = graph'.assemble.toOption := by
    apply Option.ext
    intro result
    simpa only [toOption_eq_some_iff] using same result
  exact ⟨same, fun _ _ _ _ => by rw [sameOption]; exact ⟨rfl, rfl⟩⟩

/-- The same methods and calls as in `twiceListed`, come across in another order
and under other identifiers. -/
def relistedTwice : RawGraph where
  nodes := [⟨.library, -3, "Lb/U", "h", "()V"⟩, ⟨.application, -1, "La/T", "g", "()V"⟩,
    ⟨.application, -2, "La/T", "g", "()V"⟩]
  edges := [⟨-2, -3, .invokevirtual⟩, ⟨-2, -3, .invokevirtual⟩, ⟨-1, -2, .invokestatic⟩]
  types := ∅
  nodup := by decide
  closed := by decide

theorem assemble_relisted_twice : ∃ result,
    twiceListed.assemble = .ok result ∧ relistedTwice.assemble = .ok result := by
  have relisting : Relisting (fun id => -id) twiceListed relistedTwice :=
    ⟨by decide, by decide, rfl⟩
  have assembled := assemble_eq_ok.2 ⟨_, _, _, twiceListed_stages, rfl⟩
  exact ⟨_, assembled, ((assemble_relisted relisting).1 _).1 assembled⟩

end RawGraph
end CallGraph
