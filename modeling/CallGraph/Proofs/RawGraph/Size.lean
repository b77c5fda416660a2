import CallGraph.Proofs.Json.Size
import CallGraph.Proofs.Schema.Container
import CallGraph.RawGraph.Reader

/-! A raw graph has no more methods and no more calls than its text has
octets. -/
namespace CallGraph.RawGraph
open Schema

variable {graph : RawGraph}

private theorem list_bounded {α : Type} {read : Json → Check α} {members : List (String × Json)}
    {name : String} {n : Nat} {values : List α}
    (bounded : Json.Bounded n (.object members))
    (passed : Schema.optional members name [] [] (listOf read) = .ok values) : values.length ≤ n := by
  obtain rfl | ⟨member, mem, listed⟩ := optional_eq_ok passed
  · exact Nat.zero_le n
  · obtain ⟨items, same, length⟩ := listOf_length listed
    rw [length]
    exact bounded member mem items same

theorem ofParts_eq_ok {nodes : List MethodNode} {edges : List CallEdge}
    {types : Table String TypeFacts} (made : ofParts nodes edges types = .ok graph) :
    graph.nodes = nodes ∧ graph.edges = edges ∧ graph.types = types := by
  unfold ofParts at made
  split at made
  · split at made
    · cases made
    · cases made
      exact ⟨rfl, rfl, rfl⟩
  · cases made

theorem length_ofOctets {octets : Octets} (read : ofOctets octets = .ok graph) :
    graph.nodes.length ≤ octets.length ∧ graph.edges.length ≤ octets.length := by
  unfold ofOctets at read
  split at read
  · next value found =>
    have bounded := Json.ofOctets?_bounded found
    cases value with
    | object members =>
      simp only [ofJson, Schema.objectOf] at read
      split at read
      · next nodes edges types parts =>
        obtain ⟨sameNodes, sameEdges, -⟩ := ofParts_eq_ok read
        obtain ⟨passed, -⟩ := Check.keeping_eq_ok.1 parts
        obtain ⟨nodesRead, rest⟩ := Check.both_eq_ok.1 passed
        obtain ⟨edgesRead, -⟩ := Check.both_eq_ok.1 rest
        rw [sameNodes, sameEdges]
        exact ⟨list_bounded bounded nodesRead, list_bounded bounded edgesRead⟩
      · cases read
    | _ => cases read
  · cases read

end CallGraph.RawGraph
