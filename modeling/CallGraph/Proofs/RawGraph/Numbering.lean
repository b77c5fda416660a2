import CallGraph.Proofs.ArtifactGraph.Operations
import CallGraph.Proofs.Listing
import CallGraph.Proofs.Uri.RoundTrip
import CallGraph.RawGraph.Assembly
import Mathlib.Data.String.Basic

/-! The numbers of the artifact's methods. A method's number is its place among
the artifact's distinct methods in the order of their URIs. It depends on which
methods there are and on nothing else, and the method is filed under it. -/
namespace CallGraph

/-- The method that a node names, as a method of a product. -/
def MethodNode.method (product : Option String) (node : MethodNode) :
    Except Jvm.Defect MethodUri :=
  Jvm.methodOf product node.typeName node.name node.descriptor

namespace RawGraph
open Listing

variable {graph : RawGraph} {own : List (Int × MethodUri)}

/-! The artifact's methods in the raw graph. -/

private theorem readOwn {node : MethodNode} {entry : Int × MethodUri}
    (read : (do
      let method ← Jvm.methodOf none node.typeName node.name node.descriptor
      return (node.id, method)) = Except.ok (ε := Jvm.Defect) entry) :
    node.id = entry.1 ∧ node.method none = .ok entry.2 := by
  obtain ⟨method, named, same⟩ := bind_eq_ok.1 read
  obtain rfl := Except.ok.inj same
  exact ⟨rfl, named⟩

theorem mem_own (read : graph.applicationMethods = .ok own) {id : Int} {method : MethodUri} :
    (id, method) ∈ own ↔ ∃ node ∈ graph.nodes, node.origin = .application ∧ node.id = id ∧
      node.method none = .ok method := by
  rw [mem_mapM read]
  simp only [List.mem_filter, decide_eq_true_eq, and_assoc]
  refine exists_congr fun node => and_congr_right fun _ => and_congr_right fun _ => ?_
  constructor
  · exact readOwn
  · rintro ⟨rfl, named⟩
    exact bind_eq_ok.2 ⟨method, named, rfl⟩

theorem own_keys (read : graph.applicationMethods = .ok own) :
    own.map Prod.fst = (graph.nodes.filter (·.origin = .application)).map MethodNode.id :=
  map_mapM read fun _ _ _ first => (readOwn first).1.symm

theorem own_nodup (read : graph.applicationMethods = .ok own) : (own.map Prod.fst).Nodup := by
  rw [own_keys read]
  exact (List.filter_sublist.map _).nodup graph.nodup

theorem lookup_own (read : graph.applicationMethods = .ok own) {id : Int} {method : MethodUri} :
    Table.lookup id own = some method ↔ ∃ node ∈ graph.nodes, node.origin = .application ∧
      node.id = id ∧ node.method none = .ok method :=
  (Table.lookup_eq_some_iff (own_nodup read)).trans (mem_own read)

/-! The order of the numbers. -/

/-- The key by which methods are numbered. -/
def numberingKey (method : MethodUri) : String ×ₗ String :=
  toLex (method.typeUri.text, method.text)

theorem numberingKey_injective : Function.Injective numberingKey := by
  intro a b same
  exact MethodUri.text_injective (Prod.mk.inj same).2

theorem numberedBefore_iff (a b : MethodUri) :
    numberedBefore a b = true ↔ numberingKey a ≤ numberingKey b := by
  rw [numberingKey, numberingKey, Prod.Lex.toLex_le_toLex, numberedBefore]
  simp only [Bool.or_eq_true, Bool.and_eq_true, decide_eq_true_eq, beq_iff_eq]

theorem mem_numberMethods {methods : List MethodUri} {method : MethodUri} :
    method ∈ numberMethods methods ↔ method ∈ methods := by
  simp [numberMethods]

theorem numberMethods_nodup (methods : List MethodUri) : (numberMethods methods).Nodup :=
  List.nodup_mergeSort.2 (nodup_eraseDups methods)

/-- The numbers depend only on which methods there are. -/
theorem numberMethods_congr {methods methods' : List MethodUri}
    (same : ∀ method, method ∈ methods ↔ method ∈ methods') :
    numberMethods methods = numberMethods methods' :=
  mergeSort_perm_eq numberedBefore_iff numberingKey_injective (eraseDups_perm same)

/-- The identifier of a node of the artifact has the number of the method that
the node names; no other identifier has a number. -/
theorem number?_eq_some_iff (read : graph.applicationMethods = .ok own)
    {numbered : List MethodUri} (distinct : numbered.Nodup) {id : Int} {number : Nat} :
    number? own numbered id = some number ↔ ∃ node ∈ graph.nodes, node.origin = .application ∧
      node.id = id ∧ ∃ method, node.method none = .ok method ∧ numbered[number]? = some method := by
  simp only [number?, Option.bind_eq_some_iff, lookup_own read, idxOf?_eq_some_iff distinct]
  constructor
  · rintro ⟨method, ⟨node, mem, origin, here, named⟩, place⟩
    exact ⟨node, mem, origin, here, method, named, place⟩
  · rintro ⟨node, mem, origin, here, method, named, place⟩
    exact ⟨method, ⟨node, mem, origin, here, named⟩, place⟩

/-- Every node of the artifact names a method that has a number. -/
theorem exists_number (read : graph.applicationMethods = .ok own) {node : MethodNode}
    (mem : node ∈ graph.nodes) (origin : node.origin = .application) :
    ∃ (method : MethodUri) (number : Nat), node.method none = .ok method ∧
      (numberMethods (own.map Prod.snd))[number]? = some method := by
  have key : node.id ∈ own.map Prod.fst := by
    rw [own_keys read]
    exact List.mem_map.2 ⟨node, by simp [mem, origin], rfl⟩
  obtain ⟨⟨id, method⟩, entry, same⟩ := List.mem_map.1 key
  obtain rfl : id = node.id := same
  obtain ⟨node', mem', -, sameId, named⟩ := (mem_own read).1 entry
  obtain rfl := List.inj_on_of_nodup_map graph.nodup mem' mem sameId
  have listed : method ∈ numberMethods (own.map Prod.snd) :=
    mem_numberMethods.2 (List.mem_map.2 ⟨_, entry, rfl⟩)
  obtain ⟨number, place⟩ := List.mem_iff_getElem?.1 listed
  exact ⟨method, number, named, place⟩

/-- The number of the method that a node of the artifact names. -/
def numberOf (own : List (Int × MethodUri)) (node : MethodNode) : Int :=
  ((number? own (numberMethods (own.map Prod.snd)) node.id).getD 0 : Nat)

theorem numberOf_eq {node : MethodNode} {number : Nat}
    (found : number? own (numberMethods (own.map Prod.snd)) node.id = some number) :
    numberOf own node = number := by
  rw [numberOf, found, Option.getD_some]

/-! Filing. -/

@[simp] theorem internalCalls_fileMethods (graph : ArtifactGraph) (first : Nat)
    (methods : List MethodUri) :
    (fileMethods graph first methods).internalCalls = graph.internalCalls := by
  induction methods generalizing graph first with
  | nil => rfl
  | cons method rest ih => exact ih _ _

@[simp] theorem externalCalls_fileMethods (graph : ArtifactGraph) (first : Nat)
    (methods : List MethodUri) :
    (fileMethods graph first methods).externalCalls = graph.externalCalls := by
  induction methods generalizing graph first with
  | nil => rfl
  | cons method rest ih => exact ih _ _

/-- Filing from a number on that is above all numbers in use leaves every
filed method where it is. -/
private theorem methodAt_fileMethods_from {graph : ArtifactGraph} {first : Nat}
    (below : ∀ type i method, graph.methodAt type i = some method → i < first)
    (methods : List MethodUri) {type : TypeUri} {i : Int} {method : MethodUri} :
    (fileMethods graph first methods).methodAt type i = some method ↔
      (method.typeUri = type ∧ ∃ place : Nat, i = (first + place : Nat) ∧
        methods[place]? = some method) ∨ graph.methodAt type i = some method := by
  induction methods generalizing graph first with
  | nil => simp [fileMethods]
  | cons next rest ih =>
    have belowNext : ∀ type i method,
        (graph.addMethod first next).methodAt type i = some method → i < (first + 1 : Nat) := by
      intro type i method filed
      rw [ArtifactGraph.methodAt_addMethod] at filed
      split at filed
      · next here => omega
      · have := below type i method filed
        omega
    rw [fileMethods, ih belowNext, ArtifactGraph.methodAt_addMethod]
    -- Places in the rest of the list are one less than in the whole.
    constructor
    · rintro (⟨declared, place, here, listed⟩ | filed)
      · exact .inl ⟨declared, place + 1, by omega, by simpa using listed⟩
      · split at filed
        · next here =>
          obtain rfl := Option.some.inj filed
          exact .inl ⟨here.1.symm, 0, by simpa using here.2, rfl⟩
        · exact .inr filed
    · rintro (⟨declared, place, here, listed⟩ | filed)
      · cases place with
        | zero =>
          obtain rfl := Option.some.inj (show some next = some method from listed)
          exact .inr (if_pos ⟨declared.symm, by simpa using here⟩)
        | succ place =>
          exact .inl ⟨declared, place, by omega, by simpa using listed⟩
      · have used := below type i method filed
        exact .inr ((if_neg fun here => by omega).trans filed)

/-- A method is filed under its own type and with its place as its number, and
nothing else is filed. -/
theorem methodAt_fileMethods (methods : List MethodUri) {type : TypeUri} {i : Int}
    {method : MethodUri} : (fileMethods ∅ 0 methods).methodAt type i = some method ↔
      method.typeUri = type ∧ ∃ number : Nat, i = number ∧ methods[number]? = some method := by
  have nothing : ∀ type i, (∅ : ArtifactGraph).methodAt type i = none := fun _ _ => rfl
  rw [methodAt_fileMethods_from (by simp [nothing])]
  simp [nothing]

end RawGraph
end CallGraph
