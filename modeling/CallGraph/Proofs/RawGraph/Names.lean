import CallGraph.Pipeline.Generation
import CallGraph.Proofs.RawGraph.Assembly
import CallGraph.Proofs.RawGraph.Reading

/-! What keeps a raw graph from being assembled. Assembling looks identifiers
and methods up in lists that have been made before, and every one of these
lookups finds what it looks for. So the only thing that can go wrong is a name
that cannot be read, and it goes wrong exactly if there is one among the names
that are looked at: those of the artifact's methods, of types, of the
supertypes of the artifact's types, and of methods that the artifact calls. -/
namespace CallGraph

/-- The names of the supertypes that facts speak of. -/
def TypeFacts.supertypes (facts : TypeFacts) : List String :=
  (facts.superclass.filter (· ≠ "")).toList ++ facts.interfaces

namespace RawGraph
open Listing

variable {graph : RawGraph} {own : List (Int × MethodUri)} {defect : Jvm.Defect}

/-! Names. -/

/-- The artifact declares a method of the type. -/
def Declares (graph : RawGraph) (type : TypeUri) : Prop :=
  ∃ node ∈ graph.nodes, node.origin = .application ∧
    ∃ method, node.method none = .ok method ∧ method.typeUri = type

/-- One of the names that assembling looks at cannot be read. -/
inductive Misnamed (graph : RawGraph) : Jvm.Defect → Prop
  /-- A method of the artifact. -/
  | method {node : MethodNode} {defect : Jvm.Defect} (mem : node ∈ graph.nodes)
      (origin : node.origin = .application) (refused : node.method none = .error defect) :
      Misnamed graph defect
  /-- A type of which something is known. -/
  | type {name : String} {facts : TypeFacts} {defect : Jvm.Defect}
      (mem : (name, facts) ∈ graph.types.entries) (refused : Jvm.typeOfName name = .error defect) :
      Misnamed graph defect
  /-- A supertype of a type of which the artifact declares a method. -/
  | supertype {name supertype : String} {facts : TypeFacts} {type : TypeUri} {defect : Jvm.Defect}
      (mem : (name, facts) ∈ graph.types.entries) (read : Jvm.typeOfName name = .ok type)
      (declared : graph.Declares type) (named : supertype ∈ facts.supertypes)
      (refused : Jvm.typeOfName supertype = .error defect) : Misnamed graph defect
  /-- A method outside the artifact that a method of the artifact calls. -/
  | callee {edge : CallEdge} {caller callee : MethodNode} {defect : Jvm.Defect}
      (mem : edge ∈ graph.edges) (atCaller : graph.node? edge.caller = some caller)
      (own : caller.origin = .application) (atCallee : graph.node? edge.callee = some callee)
      (foreign : callee.origin = .library)
      (refused : callee.method (some externalProduct) = .error defect) : Misnamed graph defect

/-! Facts on types. -/

/-- The supertypes are read in the order in which facts name them. -/
theorem readSupertypes_eq (facts : TypeFacts) : readSupertypes facts = (do
    let classes ← (facts.superclass.filter (· ≠ "")).toList.mapM Jvm.typeOfName
    let interfaces ← facts.interfaces.mapM Jvm.typeOfName
    return ⟨classes, interfaces⟩) := by
  unfold readSupertypes
  cases facts.superclass with
  | none => rfl
  | some name =>
    by_cases empty : name = ""
    · subst empty
      rfl
    · have kept : (some name).filter (· ≠ "") = some name := by simp [Option.filter, empty]
      rw [kept]
      simp

theorem exists_of_readSupertypes_error {facts : TypeFacts}
    (failed : readSupertypes facts = .error defect) :
    ∃ name ∈ facts.supertypes, Jvm.typeOfName name = .error defect := by
  rw [readSupertypes_eq] at failed
  rcases bind_eq_error.1 failed with failed | ⟨classes, -, failed⟩
  · obtain ⟨name, mem, refused⟩ := exists_of_mapM_error failed
    exact ⟨name, List.mem_append_left _ mem, refused⟩
  · rcases bind_eq_error.1 failed with failed | ⟨interfaces, -, done⟩
    · obtain ⟨name, mem, refused⟩ := exists_of_mapM_error failed
      exact ⟨name, List.mem_append_right _ mem, refused⟩
    · cases done

theorem exists_of_readSupertypes {facts : TypeFacts} {supertypes : Supertypes}
    (read : readSupertypes facts = .ok supertypes) {name : String}
    (mem : name ∈ facts.supertypes) : ∃ type, Jvm.typeOfName name = .ok type := by
  rw [readSupertypes_eq] at read
  obtain ⟨classes, atClasses, read⟩ := bind_eq_ok.1 read
  obtain ⟨interfaces, atInterfaces, -⟩ := bind_eq_ok.1 read
  rcases List.mem_append.1 mem with mem | mem
  · obtain ⟨type, -, named⟩ := exists_mapM atClasses mem
    exact ⟨type, named⟩
  · obtain ⟨type, -, named⟩ := exists_mapM atInterfaces mem
    exact ⟨type, named⟩

/-- The types of a graph are those that the artifact declares methods of. -/
def HasDeclared (graph : RawGraph) (typed : ArtifactGraph) : Prop :=
  ∀ type, typed.hierarchy.contains type = true ↔ graph.Declares type

theorem mem_types_fileMethods (typed : ArtifactGraph) (first : Nat) (methods : List MethodUri)
    (type : TypeUri) : type ∈ (fileMethods typed first methods).hierarchy.keys ↔
      (∃ method ∈ methods, method.typeUri = type) ∨ type ∈ typed.hierarchy.keys := by
  induction methods generalizing typed first with
  | nil => simp [fileMethods]
  | cons method rest ih =>
    rw [fileMethods, ih, ArtifactGraph.addMethod, ArtifactGraph.updateType, Table.mem_keys_update]
    simp only [List.mem_cons, exists_eq_or_imp, eq_comm (a := type)]
    rw [or_left_comm, or_assoc]

theorem hasDeclared_fileMethods (read : graph.applicationMethods = .ok own) :
    HasDeclared graph (fileMethods ∅ 0 (numberMethods (own.map Prod.snd))) := by
  intro type
  have none : type ∉ (∅ : ArtifactGraph).hierarchy.keys := List.not_mem_nil
  rw [Table.contains_iff, mem_types_fileMethods, or_iff_left none, Declares]
  constructor
  · rintro ⟨method, mem, declared⟩
    obtain ⟨⟨id, method⟩, entry, rfl⟩ := List.mem_map.1 (mem_numberMethods.1 mem)
    obtain ⟨node, nodeMem, origin, -, named⟩ := (mem_own read).1 entry
    exact ⟨node, nodeMem, origin, method, named, declared⟩
  · rintro ⟨node, nodeMem, origin, method, named, declared⟩
    have entry := (mem_own read).2 ⟨node, nodeMem, origin, rfl, named⟩
    exact ⟨method, mem_numberMethods.2 (List.mem_map_of_mem entry), declared⟩

/-- Facts are attached to types that are there, so there are no other types
after. -/
theorem HasDeclared.attachFacts {before after : ArtifactGraph} {name : String} {facts : TypeFacts}
    (attached : RawGraph.attachFacts before name facts = .ok after)
    (has : HasDeclared graph before) : HasDeclared graph after := by
  obtain ⟨type, -, attached⟩ := bind_eq_ok.1 attached
  split at attached
  · next known =>
    obtain ⟨supertypes, -, same⟩ := bind_eq_ok.1 attached
    obtain rfl := Except.ok.inj same
    intro other
    rw [← has other, Table.contains_iff, Table.contains_iff, ArtifactGraph.setSupertypes,
      ArtifactGraph.updateType, Table.mem_keys_update]
    exact or_iff_right_of_imp fun same => same ▸ Table.contains_iff.1 known
  · obtain rfl := Except.ok.inj attached
    exact has

theorem misnamed_of_attachFacts {typed : ArtifactGraph} {entry : String × TypeFacts}
    (has : HasDeclared graph typed) (mem : entry ∈ graph.types.entries)
    (failed : attachFacts typed entry.1 entry.2 = .error defect) : Misnamed graph defect := by
  rcases bind_eq_error.1 failed with refused | ⟨type, read, failed⟩
  · exact .type mem refused
  · split at failed
    · next known =>
      rcases bind_eq_error.1 failed with failed | ⟨supertypes, -, done⟩
      · obtain ⟨name, named, refused⟩ := exists_of_readSupertypes_error failed
        exact .supertype mem read ((has type).1 known) named refused
      · cases done
    · cases failed

/-! Calls. -/

/-- The identifier of a node has a number exactly if the node is one of the
artifact. -/
theorem number?_isSome_iff (read : graph.applicationMethods = .ok own) {id : Int}
    {node : MethodNode} (found : graph.node? id = some node) :
    (∃ number, number? own (numberMethods (own.map Prod.snd)) id = some number) ↔
      node.origin = .application := by
  obtain ⟨mem, rfl⟩ := node?_eq_some_iff.1 found
  constructor
  · rintro ⟨number, numbered⟩
    obtain ⟨node', mem', origin, same, -⟩ :=
      (number?_eq_some_iff read (numberMethods_nodup _)).1 numbered
    rwa [← List.inj_on_of_nodup_map graph.nodup mem' mem same]
  · intro origin
    obtain ⟨method, number, named, place⟩ := exists_number read mem origin
    exact ⟨number, (number?_eq_some_iff read (numberMethods_nodup _)).2
      ⟨node, mem, origin, rfl, method, named, place⟩⟩

/-- Every lookup that assembling relies on finds something: the node at either
end of a call, the number of a method of the artifact, and the number that the
identifier of such a method has. -/
structure LookupsFind (graph : RawGraph) : Prop where
  caller : ∀ edge ∈ graph.edges, ∃ node, graph.node? edge.caller = some node
  callee : ∀ edge ∈ graph.edges, ∃ node, graph.node? edge.callee = some node
  number : ∀ own, graph.applicationMethods = .ok own → ∀ entry ∈ own,
    ∃ number, (numberMethods (own.map Prod.snd)).idxOf? entry.2 = some number
  identifier : ∀ own, graph.applicationMethods = .ok own → ∀ node ∈ graph.nodes,
    node.origin = .application →
      ∃ number, number? own (numberMethods (own.map Prod.snd)) node.id = some number

theorem lookupsFind (graph : RawGraph) : LookupsFind graph where
  caller edge mem := by
    obtain ⟨caller, -, found, -⟩ := exists_ends mem
    exact ⟨caller, found⟩
  callee edge mem := by
    obtain ⟨-, callee, -, found⟩ := exists_ends mem
    exact ⟨callee, found⟩
  number own _ entry mem := by
    have listed : entry.2 ∈ numberMethods (own.map Prod.snd) :=
      mem_numberMethods.2 (List.mem_map_of_mem mem)
    obtain ⟨number, place⟩ := List.mem_iff_getElem?.1 listed
    exact ⟨number, (idxOf?_eq_some_iff (numberMethods_nodup _)).2 place⟩
  identifier own read node mem :=
    (number?_isSome_iff read (node?_eq_some_iff.2 ⟨mem, rfl⟩)).2

/-- What becomes of a call that a node of the artifact makes to one outside. -/
theorem readCall_foreign (read : graph.applicationMethods = .ok own) {edge : CallEdge}
    {caller callee : MethodNode} (atCaller : graph.node? edge.caller = some caller)
    (origin : caller.origin = .application) (atCallee : graph.node? edge.callee = some callee)
    (foreign : callee.origin = .library) :
    ∃ number, graph.readCall (number? own (numberMethods (own.map Prod.snd))) edge = (do
      let method ← callee.method (some externalProduct)
      return some (.external number method edge.kind)) := by
  obtain ⟨number, numbered⟩ := (number?_isSome_iff read atCaller).2 origin
  refine ⟨number, readCall_external edge numbered ?_ atCallee⟩
  rw [Option.eq_none_iff_forall_ne_some]
  intro other found
  have inside := (number?_isSome_iff read atCallee).1 ⟨other, found⟩
  rw [foreign] at inside
  cases inside

theorem misnamed_of_readCall (read : graph.applicationMethods = .ok own) {edge : CallEdge}
    (mem : edge ∈ graph.edges)
    (failed : graph.readCall (number? own (numberMethods (own.map Prod.snd))) edge = .error defect) :
    Misnamed graph defect := by
  obtain ⟨caller, callee, atCaller, atCallee⟩ := exists_ends mem
  cases numbered : number? own (numberMethods (own.map Prod.snd)) edge.caller with
  | none =>
    rw [readCall_unnumbered edge numbered] at failed
    cases failed
  | some a =>
    have origin := (number?_isSome_iff read atCaller).1 ⟨a, numbered⟩
    cases called : number? own (numberMethods (own.map Prod.snd)) edge.callee with
    | some b =>
      rw [readCall_internal edge numbered called] at failed
      cases failed
    | none =>
      have foreign : callee.origin = .library := by
        cases sort : callee.origin with
        | library => rfl
        | application =>
          obtain ⟨b, found⟩ := (number?_isSome_iff read atCallee).2 sort
          cases called.symm.trans found
      obtain ⟨number, same⟩ := readCall_foreign read atCaller origin atCallee foreign
      rw [same] at failed
      rcases bind_eq_error.1 failed with refused | ⟨_, -, done⟩
      · exact .callee mem atCaller origin atCallee foreign refused
      · cases done

/-! Assembling. -/

/-- A graph is not assembled for the sake of a name that cannot be read. -/
theorem misnamed_of_assemble (failed : graph.assemble = .error defect) : Misnamed graph defect := by
  rcases bind_eq_error.1 failed with failed | ⟨own, read, failed⟩
  · obtain ⟨node, mem, failed⟩ := exists_of_mapM_error failed
    obtain ⟨mem, origin⟩ := List.mem_filter.1 mem
    rcases bind_eq_error.1 failed with refused | ⟨_, -, done⟩
    · exact .method mem (of_decide_eq_true origin) refused
    · cases done
  · rcases bind_eq_error.1 failed with failed | ⟨typed, -, failed⟩
    · obtain ⟨entry, mem, middle, has, refused⟩ := exists_of_foldlM_error
        (p := HasDeclared graph) (fun _ _ _ _ attached has => has.attachFacts attached) failed
        (hasDeclared_fileMethods read)
      exact misnamed_of_attachFacts has mem refused
    · rcases bind_eq_error.1 failed with failed | ⟨calls, -, done⟩
      · obtain ⟨edge, mem, refused⟩ := exists_of_mapM_error failed
        exact misnamed_of_readCall read mem refused
      · cases done

/-- No name that is looked at is one that cannot be read, where a graph is
assembled. -/
theorem not_misnamed_of_assemble {result : ArtifactGraph} (done : graph.assemble = .ok result) :
    ¬ Misnamed graph defect := by
  obtain ⟨own, typed, calls, stages, -⟩ := assemble_eq_ok.1 done
  have attached : ∀ entry ∈ graph.types.entries, ∃ before after, HasDeclared graph before ∧
      attachFacts before entry.1 entry.2 = .ok after := fun entry mem =>
    exists_foldlM_step (fun _ _ _ _ attached has => has.attachFacts attached) stages.facts
      (hasDeclared_fileMethods stages.methods) mem
  rintro (⟨mem, origin, refused⟩ | ⟨mem, refused⟩ | ⟨mem, read, declared, named, refused⟩ |
    ⟨mem, atCaller, origin, atCallee, foreign, refused⟩)
  · obtain ⟨method, -, named, -⟩ := exists_number stages.methods mem origin
    cases refused.symm.trans named
  · obtain ⟨before, after, -, done⟩ := attached _ mem
    obtain ⟨type, read, -⟩ := bind_eq_ok.1 done
    cases refused.symm.trans read
  · obtain ⟨before, after, has, done⟩ := attached _ mem
    obtain ⟨type, read', done⟩ := bind_eq_ok.1 done
    obtain rfl := Except.ok.inj (read.symm.trans read')
    rw [if_pos ((has _).2 declared)] at done
    obtain ⟨supertypes, readAll, -⟩ := bind_eq_ok.1 done
    obtain ⟨_, read⟩ := exists_of_readSupertypes readAll named
    cases refused.symm.trans read
  · obtain ⟨number, same⟩ := readCall_foreign stages.methods atCaller origin atCallee foreign
    obtain ⟨call?, -, done⟩ := exists_mapM stages.read mem
    obtain ⟨method, named, -⟩ := bind_eq_ok.1 (same.symm.trans done)
    cases refused.symm.trans named

end RawGraph

namespace Pipeline
open RawGraph

/-- **An analyzer's output is malformed or a closed graph, and nothing but a name
keeps a closed graph from being assembled.** From any octets a graph is read, or
they are refused as malformed input; they are refused only if they hold no parts
of a graph, or parts in which two nodes have one identifier or a call has an end
that is no node, where identifiers are what the schema makes of them. Of a graph
that is read, every lookup of a node or of a number finds one. The graph is
assembled if all names that are looked at can be read; otherwise it is refused
for the sake of one of them, as malformed input or for its format. -/
theorem readRawGraph_assemble [Platform] (octets : Octets) :
    (∃ failure, readRawGraph octets = .error (.failure failure) ∧
      failure.kind = .inl .malformedInput ∧
      ∀ nodes edges types, RawGraph.Holds octets nodes edges types →
        (nodeIds nodes).Nodup → ∃ edge ∈ edges, ¬ edge.within (nodeIds nodes)) ∨
    ∃ graph, readRawGraph octets = .ok graph ∧
      RawGraph.Holds octets graph.nodes graph.edges graph.types ∧ (nodeIds graph.nodes).Nodup ∧
      (∀ edge ∈ graph.edges, edge.caller ∈ nodeIds graph.nodes ∧
        edge.callee ∈ nodeIds graph.nodes) ∧ graph.LookupsFind ∧
      (((∃ result, graph.assemble = .ok result) ∧ ∀ defect, ¬ graph.Misnamed defect) ∨
        ∃ defect, graph.assemble = .error defect ∧ graph.Misnamed defect ∧
          ((Failure.jvm defect).kind = .inl .malformedInput ∨
            (Failure.jvm defect).kind = .inl .format)) := by
  cases read : ofOctets octets with
  | error defects =>
    refine .inl ⟨.rawGraph defects (Platform.complaint .rawGraph octets),
      by rw [readRawGraph, read]; rfl, rfl, ?_⟩
    intro nodes edges types holds distinct
    by_contra closed
    push Not at closed
    have whole : ofOctets octets = .ok ⟨nodes, edges, types, distinct, closed⟩ :=
      ofOctets_eq_ok_iff.2 holds
    cases read.symm.trans whole
  | ok graph =>
    refine .inr ⟨graph, by rw [readRawGraph, read]; rfl, ofOctets_eq_ok_iff.1 read, graph.nodup,
      graph.closed, graph.lookupsFind, ?_⟩
    cases assembled : graph.assemble with
    | ok result => exact .inl ⟨⟨result, rfl⟩, fun _ => not_misnamed_of_assemble assembled⟩
    | error defect =>
      refine .inr ⟨defect, rfl, misnamed_of_assemble assembled, ?_⟩
      cases defect with
      | uri => exact .inr rfl
      | _ => exact .inl rfl

end Pipeline

end CallGraph
