import CallGraph.Proofs.RawGraph.Assembly
import CallGraph.Proofs.RawGraph.Calls

/-! No call is lost and none is invented. Every call of a raw graph has one of
three outcomes: a library method makes it and it is left out, it stays inside
the artifact and its pair of numbers is listed once, or it leaves the artifact
and moves one counter by one. -/
namespace CallGraph.RawGraph
open Listing

variable {graph : RawGraph} {own : List (Int × MethodUri)} {typed result : ArtifactGraph}
  {calls : List (Option Call)}

/-- A library method makes the call. -/
def fromLibrary (graph : RawGraph) (edge : CallEdge) : Bool :=
  (graph.node? edge.caller).any fun caller => caller.origin = .library

/-- The call goes from a method of the artifact to one of the artifact. -/
def staysInside (graph : RawGraph) (edge : CallEdge) : Bool :=
  ((graph.node? edge.caller).any fun caller => caller.origin = .application) &&
    (graph.node? edge.callee).any fun callee => callee.origin = .application

/-- The call is of a kind and goes from a method of the artifact with a number
to a library method with a URI, as a method of an unknown product. -/
def leavesAs (graph : RawGraph) (id : MethodNode → Int) (c : Int) (u : MethodUri) (k : String)
    (edge : CallEdge) : Bool :=
  ((graph.node? edge.caller).any fun caller => caller.origin = .application && id caller = c) &&
    ((graph.node? edge.callee).any fun callee =>
      callee.origin = .library && callee.method (some externalProduct) = .ok u) &&
    edge.kind.name = k

/-- What becomes of a call, given the numbers of the artifact's nodes. -/
inductive Outcome (graph : RawGraph) (id : MethodNode → Int) (edge : CallEdge) :
    Option Call → Prop
  | dropped {caller : MethodNode} (made : graph.node? edge.caller = some caller)
      (library : caller.origin = .library) : Outcome graph id edge none
  | internal {caller callee : MethodNode} {n m : Nat}
      (made : graph.node? edge.caller = some caller) (by_own : caller.origin = .application)
      (goes : graph.node? edge.callee = some callee) (to_own : callee.origin = .application)
      (fromNumber : id caller = n) (toNumber : id callee = m) :
      Outcome graph id edge (some (.internal n m))
  | external {caller callee : MethodNode} {n : Nat} {u : MethodUri}
      (made : graph.node? edge.caller = some caller) (by_own : caller.origin = .application)
      (goes : graph.node? edge.callee = some callee) (library : callee.origin = .library)
      (fromNumber : id caller = n) (named : callee.method (some externalProduct) = .ok u) :
      Outcome graph id edge (some (.external n u edge.kind))

namespace Stages

/-- A node of the artifact has the number that its method is filed under. -/
theorem number?_application (stages : Stages graph own typed calls) {node : MethodNode}
    (mem : node ∈ graph.nodes) (origin : node.origin = .application) :
    ∃ (method : MethodUri) (number : Nat), node.method none = .ok method ∧
      (numberMethods (own.map Prod.snd))[number]? = some method ∧
      number? own (numberMethods (own.map Prod.snd)) node.id = some number := by
  obtain ⟨method, number, named, place⟩ := exists_number stages.methods mem origin
  exact ⟨method, number, named, place, (number?_eq_some_iff stages.methods
    (numberMethods_nodup _)).2 ⟨node, mem, origin, rfl, method, named, place⟩⟩

/-- A library node has no number. -/
theorem number?_library (stages : Stages graph own typed calls) {node : MethodNode}
    (mem : node ∈ graph.nodes) (origin : node.origin = .library) :
    number? own (numberMethods (own.map Prod.snd)) node.id = none := by
  apply Option.eq_none_iff_forall_ne_some.2
  intro number found
  obtain ⟨other, otherMem, application, sameId, -⟩ :=
    (number?_eq_some_iff stages.methods (numberMethods_nodup _)).1 found
  obtain rfl := List.inj_on_of_nodup_map graph.nodup otherMem mem sameId
  rw [origin] at application
  cases application

theorem methodAt_enterCalls (stages : Stages graph own typed calls) {type : TypeUri} {i : Int}
    {method : MethodUri} : (enterCalls typed (calls.filterMap id)).methodAt type i = some method ↔
      method.typeUri = type ∧ ∃ number : Nat, i = number ∧
        (numberMethods (own.map Prod.snd))[number]? = some method := by
  rw [RawGraph.methodAt_enterCalls, stages.typed_same.methods, methodAt_fileMethods]

/-- Every call that is read has one of the three outcomes. -/
theorem outcome (stages : Stages graph own typed calls) {edge : CallEdge} {call : Option Call}
    (mem : edge ∈ graph.edges)
    (read : graph.readCall (number? own (numberMethods (own.map Prod.snd))) edge = .ok call) :
    Outcome graph (numberOf own) edge call := by
  obtain ⟨caller, callee, made, goes⟩ := exists_ends mem
  obtain ⟨callerMem, callerId⟩ := node?_eq_some_iff.1 made
  obtain ⟨calleeMem, calleeId⟩ := node?_eq_some_iff.1 goes
  cases callerOrigin : caller.origin with
  | library =>
    rw [readCall_unnumbered _ (callerId ▸ stages.number?_library callerMem callerOrigin)] at read
    obtain rfl := Except.ok.inj read
    exact .dropped made callerOrigin
  | application =>
    obtain ⟨-, n, -, -, fromNumber⟩ := stages.number?_application callerMem callerOrigin
    have fromId : numberOf own caller = n := numberOf_eq fromNumber
    rw [callerId] at fromNumber
    cases calleeOrigin : callee.origin with
    | application =>
      obtain ⟨-, m, -, -, toNumber⟩ := stages.number?_application calleeMem calleeOrigin
      have toId : numberOf own callee = m := numberOf_eq toNumber
      rw [readCall_internal _ fromNumber (calleeId ▸ toNumber)] at read
      obtain rfl := Except.ok.inj read
      exact .internal made callerOrigin goes calleeOrigin fromId toId
    | library =>
      rw [readCall_external _ fromNumber
        (calleeId ▸ stages.number?_library calleeMem calleeOrigin) goes] at read
      obtain ⟨u, named, same⟩ := bind_eq_ok.1 read
      obtain rfl := Except.ok.inj same
      exact .external made callerOrigin goes calleeOrigin fromId named

theorem internalCalls_enterCalls (stages : Stages graph own typed calls) :
    (enterCalls typed (calls.filterMap id)).internalCalls =
      (internalCalls (calls.filterMap id)).map asPair :=
  RawGraph.internalCalls_enterCalls stages.typed_fresh.1 _

/-- A pair of numbers is listed where some call goes from a method with the
first number to a method with the second. -/
theorem mem_internalCalls (stages : Stages graph own typed calls) {c d : Int} :
    (c, d) ∈ (enterCalls typed (calls.filterMap id)).internalCalls ↔
      ∃ edge ∈ graph.edges, ∃ caller callee,
        graph.node? edge.caller = some caller ∧ caller.origin = .application ∧
        graph.node? edge.callee = some callee ∧ callee.origin = .application ∧
        (c, d) = (numberOf own caller, numberOf own callee) := by
  rw [stages.internalCalls_enterCalls, List.mem_map]
  constructor
  · rintro ⟨⟨n, m⟩, entered, same⟩
    rw [RawGraph.mem_internalCalls, List.mem_filterMap] at entered
    obtain ⟨_, called, rfl⟩ := entered
    obtain ⟨edge, mem, read⟩ := (mem_mapM stages.read).1 called
    cases stages.outcome mem read with
    | internal made by_own goes to_own fromNumber toNumber =>
      exact ⟨edge, mem, _, _, made, by_own, goes, to_own, by rw [fromNumber, toNumber, ← same]; rfl⟩
  · rintro ⟨edge, mem, caller, callee, made, by_own, goes, to_own, same⟩
    obtain ⟨call, called, read⟩ := exists_mapM stages.read mem
    have outcome := stages.outcome mem read
    cases outcome with
    | dropped made' library =>
      rw [Option.some.inj (made.symm.trans made'), library] at by_own
      cases by_own
    | external _ _ goes' library _ _ =>
      rw [Option.some.inj (goes.symm.trans goes'), library] at to_own
      cases to_own
    | @internal _ _ n m made' _ goes' _ fromNumber toNumber =>
      obtain rfl := Option.some.inj (made.symm.trans made')
      obtain rfl := Option.some.inj (goes.symm.trans goes')
      refine ⟨(n, m), RawGraph.mem_internalCalls.2 (List.mem_filterMap.2 ⟨_, called, rfl⟩), ?_⟩
      rw [same, fromNumber, toNumber]
      rfl

theorem counter_enterCalls (stages : Stages graph own typed calls) (c : Int) (u : MethodUri)
    (k : String) : (enterCalls typed (calls.filterMap id)).counter c u k =
      ArtifactGraph.moved none (graph.edges.countP (graph.leavesAs (numberOf own) c u k)) := by
  rw [RawGraph.counter_enterCalls stages.typed_fresh.2, List.countP_filterMap]
  congr 1
  refine (countP_mapM stages.read fun edge call mem read => ?_).symm
  cases stages.outcome mem read with
  | dropped made library => simp [leavesAs, made, library]
  | internal made _ goes to_own _ _ => simp [leavesAs, made, goes, to_own, Call.external?]
  | external made by_own goes library fromNumber named =>
    simp [leavesAs, made, by_own, goes, library, fromNumber, named, Call.external?, asEntry,
      Bool.and_assoc]

/-- Each call is left out, stays inside or is counted. -/
theorem length_edges (stages : Stages graph own typed calls) :
    graph.edges.length = graph.edges.countP graph.fromLibrary +
      graph.edges.countP graph.staysInside +
      (enterCalls typed (calls.filterMap id)).externalTotal := by
  have counted : graph.edges.countP (fun edge => !graph.fromLibrary edge && !graph.staysInside edge) =
      calls.countP fun call => (call.bind Call.external?).isSome := by
    apply countP_mapM stages.read
    intro edge call mem read
    cases stages.outcome mem read with
    | dropped made library => simp [fromLibrary, made, library]
    | internal made by_own goes to_own _ _ =>
      simp [staysInside, made, by_own, goes, to_own, Call.external?]
    | external made by_own goes library _ _ =>
      simp [fromLibrary, staysInside, made, by_own, goes, library, Call.external?]
  have sameCount : (calls.filterMap id).countP (fun call => call.external?.isSome) =
      calls.countP fun call => (call.bind Call.external?).isSome := by
    rw [List.countP_filterMap]
    apply List.countP_congr
    intro call _
    cases call <;> simp
  rw [externalTotal_enterCalls stages.typed_fresh.2, sameCount, ← counted]
  apply length_eq_countP
  intro edge mem
  obtain ⟨caller, callee, made, goes⟩ := exists_ends mem
  simp only [fromLibrary, staysInside, made, goes, Option.any_some]
  cases caller.origin <;> cases callee.origin <;> rfl

end Stages

/-- What an artifact's call graph shows of the calls of a raw graph, given the
numbers of the artifact's nodes. -/
structure Accounted (graph : RawGraph) (result : ArtifactGraph) (id : MethodNode → Int) :
    Prop where
  /-- A node's number is the one number of the method that it names. -/
  numbered : ∀ node ∈ graph.nodes, node.origin = .application →
    ∃ method, node.method none = .ok method ∧
      ∀ type i, result.methodAt type i = some method ↔ method.typeUri = type ∧ i = id node
  /-- Internal calls increase at every step. -/
  increasing : result.internalCalls.Pairwise fun a b => toLex a < toLex b
  /-- Internal calls are the pairs of numbers between which there is a call. -/
  internal : ∀ c d, (c, d) ∈ result.internalCalls ↔
    ∃ edge ∈ graph.edges, ∃ caller callee,
      graph.node? edge.caller = some caller ∧ caller.origin = .application ∧
      graph.node? edge.callee = some callee ∧ callee.origin = .application ∧
      (c, d) = (id caller, id callee)
  /-- A counter shows how many calls are its own, and is there if there are any. -/
  external : ∀ c u k, result.counter c u k =
    if graph.edges.countP (graph.leavesAs id c u k) = 0 then none
    else some (graph.edges.countP (graph.leavesAs id c u k))
  /-- No call is lost and none is invented. -/
  total : graph.edges.length = graph.edges.countP graph.fromLibrary +
    graph.edges.countP graph.staysInside + result.externalTotal

/-- Wherever a call graph is assembled, it accounts for every call. -/
theorem assemble_accounted (assembled : graph.assemble = .ok result) :
    ∃ id, Accounted graph result id := by
  obtain ⟨own, typed, calls, stages, rfl⟩ := assemble_eq_ok.1 assembled
  refine ⟨numberOf own, ?_, ?_, fun _ _ => stages.mem_internalCalls, ?_, stages.length_edges⟩
  · intro node mem origin
    obtain ⟨method, number, named, place, found⟩ := stages.number?_application mem origin
    refine ⟨method, named, fun type i => ?_⟩
    have number_eq : numberOf own node = number := numberOf_eq found
    rw [stages.methodAt_enterCalls, number_eq]
    refine and_congr_right fun _ => ⟨?_, fun same => ⟨number, same, place⟩⟩
    rintro ⟨other, rfl, otherPlace⟩
    have distinct := numberMethods_nodup (own.map Prod.snd)
    rw [Option.some.inj (((idxOf?_eq_some_iff distinct).2 otherPlace).symm.trans
      ((idxOf?_eq_some_iff distinct).2 place))]
  · rw [stages.internalCalls_enterCalls, List.pairwise_map]
    apply (internalCalls_increasing _).imp
    intro a b less
    simpa only [asPair, Prod.Lex.toLex_lt_toLex, Int.ofNat_lt, Int.ofNat_inj] using less
  · intro c u k
    rw [stages.counter_enterCalls, ArtifactGraph.moved]
    simp only [Option.getD_none, Nat.zero_add]

theorem assemble_accounted_twice : ∃ result id,
    twiceListed.assemble = .ok result ∧ Accounted twiceListed result id := by
  have assembled := assemble_eq_ok.2 ⟨_, _, _, twiceListed_stages, rfl⟩
  obtain ⟨id, accounted⟩ := assemble_accounted assembled
  exact ⟨_, id, assembled, accounted⟩

end CallGraph.RawGraph
