import CallGraph.Proofs.RawGraph.Numbering

/-! Assembling in stages: the artifact's methods are read and filed, facts on
types are attached, calls are read and entered. Each stage is described by what
it changes, so a property of the assembled graph is a property of one stage. -/
namespace CallGraph.RawGraph
open Listing

variable {graph : RawGraph} {own : List (Int × MethodUri)} {typed result : ArtifactGraph}
  {calls : List (Option Call)}

/-- What the stages of assembling a raw graph yield where all of them succeed:
the artifact's methods, the graph with the facts on types, and what becomes of
each call. -/
structure Stages (graph : RawGraph) (own : List (Int × MethodUri)) (typed : ArtifactGraph)
    (calls : List (Option Call)) : Prop where
  methods : graph.applicationMethods = .ok own
  facts : graph.types.entries.foldlM (fun g entry => attachFacts g entry.1 entry.2)
    (fileMethods ∅ 0 (numberMethods (own.map Prod.snd))) = .ok typed
  read : graph.edges.mapM (graph.readCall (number? own (numberMethods (own.map Prod.snd)))) =
    .ok calls

/-- A graph is assembled exactly when every stage succeeds. -/
theorem assemble_eq_ok : graph.assemble = .ok result ↔
    ∃ own typed calls, Stages graph own typed calls ∧ result = enterCalls typed (calls.filterMap id) := by
  rw [assemble, bind_eq_ok]
  constructor
  · rintro ⟨own, methods, rest⟩
    obtain ⟨typed, facts, rest⟩ := bind_eq_ok.1 rest
    obtain ⟨calls, read, same⟩ := bind_eq_ok.1 rest
    exact ⟨own, typed, calls, ⟨methods, facts, read⟩, (Except.ok.inj same).symm⟩
  · rintro ⟨own, typed, calls, stages, rfl⟩
    exact ⟨own, stages.methods, bind_eq_ok.2 ⟨typed, stages.facts,
      bind_eq_ok.2 ⟨calls, stages.read, rfl⟩⟩⟩

/-! Facts on types. -/

/-- Facts on types change neither a method nor a call. -/
structure SameButTypes (before after : ArtifactGraph) : Prop where
  methods : after.methodAt = before.methodAt
  internal : after.internalCalls = before.internalCalls
  external : after.externalCalls = before.externalCalls

theorem attachFacts_keeps {before after : ArtifactGraph} {name : String} {facts : TypeFacts}
    (attached : attachFacts before name facts = .ok after) : SameButTypes before after := by
  obtain ⟨type, -, attached⟩ := bind_eq_ok.1 attached
  split at attached
  · obtain ⟨supertypes, -, same⟩ := bind_eq_ok.1 attached
    obtain rfl := Except.ok.inj same
    refine ⟨?_, rfl, rfl⟩
    funext declarer i
    exact ArtifactGraph.methodAt_setSupertypes ..
  · obtain rfl := Except.ok.inj attached
    exact ⟨rfl, rfl, rfl⟩

namespace Stages

theorem typed_same (stages : Stages graph own typed calls) :
    SameButTypes (fileMethods ∅ 0 (numberMethods (own.map Prod.snd))) typed := by
  refine foldlM_keeps (p := SameButTypes _) ?_ stages.facts ⟨rfl, rfl, rfl⟩
  intro before entry after _ attached kept
  have step := attachFacts_keeps attached
  exact ⟨step.methods.trans kept.methods, step.internal.trans kept.internal,
    step.external.trans kept.external⟩

/-- Before calls are entered, none are known. -/
theorem typed_fresh (stages : Stages graph own typed calls) :
    typed.internalCalls = [] ∧ typed.externalCalls = ∅ :=
  ⟨stages.typed_same.internal.trans (internalCalls_fileMethods ..),
    stages.typed_same.external.trans (externalCalls_fileMethods ..)⟩

end Stages

/-! Calls. -/

/-- The node that an identifier stands for. -/
def node? (graph : RawGraph) (id : Int) : Option MethodNode :=
  graph.nodes.find? fun node => node.id = id

theorem node?_eq_some_iff {id : Int} {node : MethodNode} :
    graph.node? id = some node ↔ node ∈ graph.nodes ∧ node.id = id := by
  constructor
  · intro found
    exact ⟨List.mem_of_find?_eq_some found, by simpa using List.find?_some found⟩
  · rintro ⟨mem, rfl⟩
    cases found : graph.node? node.id with
    | none => simpa using List.find?_eq_none.1 found node mem
    | some other =>
      have here : other.id = node.id := by simpa using List.find?_some found
      rw [List.inj_on_of_nodup_map graph.nodup (List.mem_of_find?_eq_some found) mem here]

/-- Both ends of a call are nodes. -/
theorem exists_ends {edge : CallEdge} (mem : edge ∈ graph.edges) :
    ∃ caller callee, graph.node? edge.caller = some caller ∧ graph.node? edge.callee = some callee := by
  obtain ⟨callerId, calleeId⟩ := graph.closed edge mem
  obtain ⟨caller, callerMem, callerSame⟩ := List.mem_map.1 callerId
  obtain ⟨callee, calleeMem, calleeSame⟩ := List.mem_map.1 calleeId
  exact ⟨caller, callee, node?_eq_some_iff.2 ⟨callerMem, callerSame⟩,
    node?_eq_some_iff.2 ⟨calleeMem, calleeSame⟩⟩

variable {number? : Int → Option Nat} (edge : CallEdge)

theorem readCall_unnumbered (unnumbered : number? edge.caller = none) :
    graph.readCall number? edge = .ok none := by
  simp [readCall, unnumbered]

theorem readCall_internal {caller callee : Nat} (atCaller : number? edge.caller = some caller)
    (atCallee : number? edge.callee = some callee) :
    graph.readCall number? edge = .ok (some (.internal caller callee)) := by
  simp [readCall, atCaller, atCallee]

theorem readCall_external {caller : Nat} {node : MethodNode}
    (atCaller : number? edge.caller = some caller) (unnumbered : number? edge.callee = none)
    (found : graph.node? edge.callee = some node) :
    graph.readCall number? edge = (do
      let callee ← node.method (some externalProduct)
      return some (.external caller callee edge.kind)) := by
  rw [readCall, atCaller, unnumbered, ← node?, found]
  rfl

/-! A graph that lists one method of the artifact twice. The second node makes
the same call twice. -/

def twiceListed : RawGraph where
  nodes := [⟨.application, 1, "La/T", "g", "()V"⟩, ⟨.application, 2, "La/T", "g", "()V"⟩,
    ⟨.library, 3, "Lb/U", "h", "()V"⟩]
  edges := [⟨1, 2, .invokestatic⟩, ⟨2, 3, .invokevirtual⟩, ⟨2, 3, .invokevirtual⟩]
  types := ∅
  nodup := by decide
  closed := by decide

/-- The method of `twiceListed` that its artifact declares. -/
def twiceListedOwn : MethodUri :=
  ⟨none, "a", "T", "g", [], ⟨"java.lang", "VoidType", 0, by decide, by decide⟩, by decide,
    by decide, by decide⟩

/-- The method of `twiceListed` that is called outside the artifact. -/
def twiceListedForeign : MethodUri :=
  ⟨some "", "b", "U", "h", [], ⟨"java.lang", "VoidType", 0, by decide, by decide⟩, by decide,
    by decide, by decide⟩

theorem twiceListed_stages : Stages twiceListed [(1, twiceListedOwn), (2, twiceListedOwn)]
    (fileMethods ∅ 0 [twiceListedOwn])
    [some (.internal 0 0), some (.external 0 twiceListedForeign .invokevirtual),
      some (.external 0 twiceListedForeign .invokevirtual)] := by
  have once : numberMethods ([((1 : Int), twiceListedOwn), (2, twiceListedOwn)].map Prod.snd) =
      [twiceListedOwn] := by
    simp [numberMethods, List.eraseDups_cons]
  constructor
  · decide +kernel
  · rw [once]
    rfl
  · rw [once]
    decide +kernel

end CallGraph.RawGraph
