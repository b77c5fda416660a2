import CallGraph.Proofs.ArtifactGraph.Numbered
import CallGraph.Proofs.RawGraph.Accounting

/-! Assembled call graphs number their methods in one list, which is not longer
than the list of nodes. -/
namespace CallGraph.RawGraph
open Listing

variable {graph : RawGraph} {own : List (Int × MethodUri)} {typed result : ArtifactGraph}
  {calls : List (Option Call)}

namespace Stages

theorem numberOf_lt (stages : Stages graph own typed calls) {node : MethodNode} {id : Int}
    (found : graph.node? id = some node) (origin : node.origin = .application) :
    ∃ n : Nat, numberOf own node = n ∧ n < (numberMethods (own.map Prod.snd)).length := by
  obtain ⟨method, number, -, place, numbered⟩ :=
    stages.number?_application (node?_eq_some_iff.1 found).1 origin
  exact ⟨number, numberOf_eq numbered, (List.getElem?_eq_some_iff.1 place).1⟩

/-- The assembled graph numbers the artifact's distinct methods. -/
theorem numbered (stages : Stages graph own typed calls) :
    (enterCalls typed (calls.filterMap id)).Numbered (numberMethods (own.map Prod.snd))
      graph.edges.length where
  filed _ _ _ := stages.methodAt_enterCalls
  internal := by
    rintro ⟨c, d⟩ mem
    obtain ⟨edge, -, caller, callee, made, byOwn, goes, toOwn, same⟩ := stages.mem_internalCalls.1 mem
    obtain ⟨rfl, rfl⟩ := Prod.mk.inj same
    simp only [List.forall_mem_cons, List.not_mem_nil, false_imp_iff, implies_true, and_true]
    exact ⟨stages.numberOf_lt made byOwn, stages.numberOf_lt goes toOwn⟩
  external := by
    intro key mem
    obtain ⟨n, kind, same, entered⟩ := exists_externalCall stages.typed_fresh.2 mem
    obtain ⟨_, called, rfl⟩ := List.mem_filterMap.1 entered
    obtain ⟨edge, edgeMem, read⟩ := (mem_mapM stages.read).1 called
    cases stages.outcome edgeMem read with
    | external made byOwn _ _ fromNumber _ =>
      rw [same, ← fromNumber]
      exact stages.numberOf_lt made byOwn
  counted := by
    intro caller callee kind n counted
    rw [stages.counter_enterCalls, ArtifactGraph.moved] at counted
    split at counted
    · cases counted
    · next some =>
      obtain rfl := Option.some.inj counted
      rw [Option.getD_none, Nat.zero_add]
      exact ⟨Nat.pos_of_ne_zero some, List.countP_le_length⟩

end Stages

/-- No more methods are numbered than there are nodes. -/
theorem length_numberMethods (read : graph.applicationMethods = .ok own) :
    (numberMethods (own.map Prod.snd)).length ≤ graph.nodes.length := by
  have keys : own.length = (graph.nodes.filter (·.origin = .application)).length := by
    simpa using congrArg List.length (own_keys read)
  calc (numberMethods (own.map Prod.snd)).length
      ≤ (own.map Prod.snd).length :=
        (List.subperm_of_subset (numberMethods_nodup _) fun _ => mem_numberMethods.1).length_le
    _ = (graph.nodes.filter (·.origin = .application)).length := by rw [List.length_map, keys]
    _ ≤ graph.nodes.length := List.length_filter_le ..

end CallGraph.RawGraph
