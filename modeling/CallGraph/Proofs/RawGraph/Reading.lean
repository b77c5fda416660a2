import CallGraph.Proofs.Schema.Container
import CallGraph.RawGraph.Reader

/-! What a text has to hold for a raw graph to be read from it. The text is a
JSON object, its nodes and calls are read one by one, and each identifier is
what the schema makes of the value that stands for it. Only then are the
identifiers compared: two nodes that write one identifier in two ways share it,
and a call may write the identifier of a node in another way than the node. -/
namespace CallGraph.RawGraph
open Schema

/-! Nodes and calls. -/

/-- The object names the method. -/
structure NamesMethod (members : List (String × Json)) (node : MethodNode) : Prop where
  only : Only methodMembers members
  origin : Json.member? "origin" members = some (.string node.origin.name)
  id : Has members "id" integer node.id
  typeName : Has members "type" string node.typeName
  name : Has members "name" string node.name
  descriptor : Has members "descriptor" string node.descriptor

/-- The object names the call. -/
structure NamesCall (members : List (String × Json)) (edge : CallEdge) : Prop where
  only : Only ["caller", "callee", "kind"] members
  caller : Has members "caller" integer edge.caller
  callee : Has members "callee" integer edge.callee
  kind : Json.member? "kind" members = some (.string edge.kind.name)

theorem readMethod_eq_ok_iff {origin : Origin} {members : List (String × Json)}
    {node : MethodNode} : readMethod origin members = .ok node ↔
      node.origin = origin ∧ Only methodMembers members ∧ Has members "id" integer node.id ∧
        Has members "type" string node.typeName ∧ Has members "name" string node.name ∧
        Has members "descriptor" string node.descriptor := by
  simp only [readMethod, Check.keeping_eq_ok, Check.map_eq_ok, onlyMembers_eq_ok_iff, Prod.exists,
    Check.both_eq_ok, required_eq_ok_iff]
  constructor
  · rintro ⟨⟨id, typeName, name, descriptor, found, rfl⟩, only⟩
    exact ⟨rfl, only, found⟩
  · rintro ⟨rfl, only, found⟩
    exact ⟨⟨_, _, _, _, found, rfl⟩, only⟩

/-- A node is an object that says which kind of node it is. -/
theorem readNode_eq_ok_iff {value : Json} {node : MethodNode} :
    readNode value = .ok node ↔ ∃ members, value = .object members ∧ NamesMethod members node := by
  constructor
  · intro read
    unfold readNode at read
    split at read
    · next members =>
      split at read
      · cases read
      · next tag =>
        obtain ⟨origin, only, id, typeName, name, descriptor⟩ :=
          readMethod_eq_ok_iff.1 (Check.under_eq_ok.1 read)
        exact ⟨members, rfl, only, by rw [tag, origin]; rfl, id, typeName, name, descriptor⟩
      · next tag =>
        obtain ⟨origin, only, id, typeName, name, descriptor⟩ :=
          readMethod_eq_ok_iff.1 (Check.under_eq_ok.1 read)
        exact ⟨members, rfl, only, by rw [tag, origin]; rfl, id, typeName, name, descriptor⟩
      · cases read
    · cases read
  · rintro ⟨members, rfl, only, tag, id, typeName, name, descriptor⟩
    have method : readMethod node.origin members = .ok node :=
      readMethod_eq_ok_iff.2 ⟨rfl, only, id, typeName, name, descriptor⟩
    rw [readNode, tag]
    cases origin : node.origin with
    | application =>
      rw [origin] at method
      exact Check.under_eq_ok.2 method
    | library =>
      rw [origin] at method
      exact Check.under_eq_ok.2 method

theorem readKind_eq_ok_iff {value : Json} {kind : CallKind} :
    readKind value = .ok kind ↔ value = .string kind.name := by
  constructor
  · intro read
    unfold readKind at read
    split at read
    · next name =>
      split at read
      · next kind' found =>
        obtain rfl := Except.ok.inj read
        have named : kind'.name = name := by simpa using List.find?_some found
        rw [named]
      · cases read
    · cases read
  · rintro rfl
    cases kind <;> rfl

theorem readEdge_eq_ok_iff {value : Json} {edge : CallEdge} :
    readEdge value = .ok edge ↔ ∃ members, value = .object members ∧ NamesCall members edge := by
  rw [readEdge, objectOf_eq_ok_iff]
  refine exists_congr fun members => and_congr_right fun _ => ?_
  simp only [Check.keeping_eq_ok, Check.map_eq_ok, onlyMembers_eq_ok_iff, Prod.exists,
    Check.both_eq_ok, required_eq_ok_iff]
  constructor
  · rintro ⟨⟨caller, callee, kind, ⟨atCaller, atCallee, value, named, read⟩, rfl⟩, only⟩
    exact ⟨only, atCaller, atCallee, by rw [named, readKind_eq_ok_iff.1 read]⟩
  · rintro ⟨only, atCaller, atCallee, named⟩
    exact ⟨⟨_, _, _, ⟨atCaller, atCallee, _, named, readKind_eq_ok_iff.2 rfl⟩, rfl⟩, only⟩

/-! The whole text. -/

/-- The member with the name is a list of objects that are as related, one by
one; where there is none the list is empty. -/
def Lists {α : Type} (members : List (String × Json)) (name : String)
    (is : List (String × Json) → α → Prop) (items : List α) : Prop :=
  (Json.member? name members = none ∧ items = []) ∨
  ∃ values, Json.member? name members = some (.array values) ∧
    List.Forall₂ (fun value item => ∃ object, value = .object object ∧ is object item) values items

/-- The text holds these nodes, calls and facts on types. -/
def Holds (octets : Octets) (nodes : List MethodNode) (edges : List CallEdge)
    (types : Table String TypeFacts) : Prop :=
  ∃ members, Json.ofOctets? .analyzer octets = some (.object members) ∧
    Only ["nodes", "edges", "types"] members ∧ Lists members "nodes" NamesMethod nodes ∧
    Lists members "edges" NamesCall edges ∧
    ∃ entries, optional members "types" [] [] (entriesOf readFacts) = .ok entries ∧
      types = Table.ofList entries

theorem lists_iff {α : Type} {members : List (String × Json)} {name : String}
    {read : Json → Check α} {is : List (String × Json) → α → Prop} {items : List α}
    (reads : ∀ value item, read value = .ok item ↔ ∃ object, value = .object object ∧ is object item) :
    optional members name [] [] (listOf read) = .ok items ↔ Lists members name is items := by
  rw [optional_eq_ok_iff, Has, Lists]
  refine or_congr_right ?_
  constructor
  · rintro ⟨value, named, read⟩
    obtain ⟨values, rfl, each⟩ := listOf_eq_ok_iff.1 read
    exact ⟨values, named, each.imp fun value item => (reads value item).1⟩
  · rintro ⟨values, named, each⟩
    exact ⟨_, named, listOf_eq_ok_iff.2 ⟨values, rfl, each.imp fun value item => (reads value item).2⟩⟩

theorem ofParts_eq_ok_iff {nodes : List MethodNode} {edges : List CallEdge}
    {types : Table String TypeFacts} {graph : RawGraph} : ofParts nodes edges types = .ok graph ↔
      graph.nodes = nodes ∧ graph.edges = edges ∧ graph.types = types := by
  unfold ofParts
  constructor
  · intro read
    split at read
    · split at read
      · cases read
      · obtain rfl := Except.ok.inj read
        exact ⟨rfl, rfl, rfl⟩
    · cases read
  · rintro ⟨rfl, rfl, rfl⟩
    rw [dif_pos graph.nodup]
    split
    · next edge found =>
      have outside := List.find?_some found
      simp [graph.closed edge (List.mem_of_find?_eq_some found)] at outside
    · rfl

/-- A graph is read from the texts that hold its nodes, calls and facts. -/
theorem ofOctets_eq_ok_iff {octets : Octets} {graph : RawGraph} :
    ofOctets octets = .ok graph ↔ Holds octets graph.nodes graph.edges graph.types := by
  have parts : ∀ value, ofJson value = .ok graph ↔ ∃ members, value = .object members ∧
      Only ["nodes", "edges", "types"] members ∧ Lists members "nodes" NamesMethod graph.nodes ∧
      Lists members "edges" NamesCall graph.edges ∧
      ∃ entries, optional members "types" [] [] (entriesOf readFacts) = .ok entries ∧
        graph.types = Table.ofList entries := by
    intro value
    rw [ofJson, objectOf_eq_ok_iff]
    refine exists_congr fun members => and_congr_right fun _ => ?_
    rw [← lists_iff fun _ _ => readNode_eq_ok_iff, ← lists_iff fun _ _ => readEdge_eq_ok_iff,
      ← onlyMembers_eq_ok_iff]
    dsimp only
    constructor
    · intro read
      split at read
      · next nodes edges types passed =>
        obtain ⟨passed, only⟩ := Check.keeping_eq_ok.1 passed
        obtain ⟨atNodes, rest⟩ := Check.both_eq_ok.1 passed
        obtain ⟨atEdges, atTypes⟩ := Check.both_eq_ok.1 rest
        obtain ⟨rfl, rfl, same⟩ := ofParts_eq_ok_iff.1 read
        exact ⟨only, atNodes, atEdges, types, atTypes, same⟩
      · cases read
    · rintro ⟨only, atNodes, atEdges, types, atTypes, same⟩
      have passed := Check.keeping_eq_ok.2
        ⟨Check.both_eq_ok.2 ⟨atNodes, Check.both_eq_ok.2 ⟨atEdges, atTypes⟩⟩, only⟩
      rw [passed]
      exact ofParts_eq_ok_iff.2 ⟨rfl, rfl, same⟩
  rw [ofOctets, Holds]
  cases Json.ofOctets? .analyzer octets with
  | none => simp [Check.fail]
  | some value => simp [parts]

end CallGraph.RawGraph
