import CallGraph.Proofs.ArtifactGraph.Operations
import CallGraph.Proofs.Listing
import Mathlib.Data.List.Induction

/-! A call graph shows the operations that it was built up by. What it shows is
said of the list of operations alone: which calls were submitted, how often, and
what was said last of a method or of the supertypes of a type. Each view of the
graph is followed through one more operation at the end of the list. -/
namespace CallGraph

/-- What tells a method from others, however its URI was spelled. -/
def MethodUri.parts (method : MethodUri) :
    Option String × String × String × String × List TypeUri × TypeUri :=
  (method.product, method.ns, method.typeName, method.name, method.params, method.ret)

theorem MethodUri.parts_injective : Function.Injective MethodUri.parts := by
  intro a b same
  cases a
  cases b
  simp_all [MethodUri.parts]

namespace ArtifactGraph
open Listing

/-- What may be done to a call graph. -/
inductive Operation where
  | addMethod (id : Int) (method : MethodUri)
  | setSupertypes (type : TypeUri) (supertypes : Supertypes)
  | addInternalCall (caller callee : Int)
  | addExternalCall (caller : Int) (callee : MethodUri) (kind : String)
deriving DecidableEq

def apply (graph : ArtifactGraph) : Operation → ArtifactGraph
  | .addMethod id method => graph.addMethod id method
  | .setSupertypes type supertypes => graph.setSupertypes type supertypes
  | .addInternalCall caller callee => graph.addInternalCall caller callee
  | .addExternalCall caller callee kind => graph.addExternalCall caller callee kind

/-- The graph that operations build up, one after the other. -/
def run (ops : List Operation) : ArtifactGraph := ops.foldl apply ∅

theorem run_concat (ops : List Operation) (op : Operation) :
    run (ops ++ [op]) = (run ops).apply op := by
  rw [run, List.foldl_append]
  rfl

/-- What is known of the supertypes of a type. -/
def supertypesOf (graph : ArtifactGraph) (type : TypeUri) : Option Supertypes :=
  (graph.hierarchy.get? type).bind fun known => known.supertypes

namespace Operation

def isCall : Operation → Bool
  | addMethod .. | setSupertypes .. => false
  | addInternalCall .. | addExternalCall .. => true

/-- The pair of numbers that is submitted as a call inside the artifact. -/
def internal? : Operation → Option (Int × Int)
  | addInternalCall caller callee => some (caller, callee)
  | _ => none

/-- The ends of the call that is submitted as one out of the artifact. -/
def external? : Operation → Option (Int × MethodUri)
  | addExternalCall caller callee _ => some (caller, callee)
  | _ => none

/-- The operation submits a call of the kind from the caller to a method with
the parts of the callee. -/
def submits (caller : Int) (callee : MethodUri) (kind : String) : Operation → Bool
  | addExternalCall c u k => c = caller ∧ u.parts = callee.parts ∧ k = kind
  | _ => false

/-- The type of which the operation says something. -/
def type? : Operation → Option TypeUri
  | addMethod _ method => some method.typeUri
  | setSupertypes type _ => some type
  | _ => none

/-- The method that the operation adds to the type under the number. -/
def methodUnder? (type : TypeUri) (i : Int) : Operation → Option MethodUri
  | addMethod id method => if method.typeUri = type ∧ id = i then some method else none
  | _ => none

/-- The supertypes that the operation sets for the type. -/
def supertypesFor? (type : TypeUri) : Operation → Option Supertypes
  | setSupertypes declarer supertypes => if declarer = type then some supertypes else none
  | _ => none

variable {op : Operation}

theorem isCall_iff : op.isCall = true ↔ op.internal?.isSome ∨ op.external?.isSome := by
  cases op <;> simp [isCall, internal?, external?]

theorem isCall_of_submits {caller : Int} {callee : MethodUri} {kind : String}
    (submitted : op.submits caller callee kind = true) : op.isCall = true := by
  cases op with
  | addExternalCall => rfl
  | _ => cases submitted

end Operation

/-- What a graph shows of the operations that built it up. -/
structure Shows (graph : ArtifactGraph) (ops : List Operation) : Prop where
  /-- Distinct pairs in the order in which each was submitted first. -/
  internal : graph.internalCalls = (ops.filterMap Operation.internal?).eraseDups
  /-- A counter shows how many submissions are its own, and is there if there are any. -/
  counters : ∀ caller callee kind, graph.counter caller callee kind =
    if ops.countP (Operation.submits caller callee kind) = 0 then none
    else some (ops.countP (Operation.submits caller callee kind))
  /-- A caller and a callee have counters if a call between them was submitted. -/
  external : graph.externalCalls.keys = (ops.filterMap Operation.external?).eraseDups
  /-- A type is there if an operation said something of it. -/
  types : graph.hierarchy.keys = (ops.filterMap Operation.type?).eraseDups
  /-- A number stands for the last method of the type that was added under it. -/
  methods : ∀ type i, graph.methodAt type i =
    (ops.filterMap (Operation.methodUnder? type i)).getLast?
  /-- Supertypes are those that were set last, and unknown if none were. -/
  supertypes : ∀ type, graph.supertypesOf type =
    (ops.filterMap (Operation.supertypesFor? type)).getLast?
  /-- Only calls make a graph nonempty. -/
  empty : graph.isEmpty = true ↔ ∀ op ∈ ops, op.isCall = false

/-! One more operation. -/

section Step

variable (graph : ArtifactGraph) (op : Operation)

theorem calls_apply (noCall : op.isCall = false) :
    (graph.apply op).internalCalls = graph.internalCalls ∧
      (graph.apply op).externalCalls = graph.externalCalls := by
  cases op with
  | addMethod id method => exact ⟨rfl, rfl⟩
  | setSupertypes type supertypes => exact ⟨rfl, rfl⟩
  | addInternalCall caller callee => cases noCall
  | addExternalCall caller callee kind => cases noCall

theorem hierarchy_apply (call : op.isCall = true) :
    (graph.apply op).hierarchy = graph.hierarchy := by
  cases op with
  | addMethod id method => cases call
  | setSupertypes type supertypes => cases call
  | addInternalCall caller callee => exact hierarchy_addInternalCall graph caller callee
  | addExternalCall caller callee kind => rfl

theorem internalCalls_apply :
    (graph.apply op).internalCalls = withNew graph.internalCalls op.internal? := by
  cases op with
  | addInternalCall caller callee =>
    rw [apply, addInternalCall, Operation.internal?, withNew]
    split <;> rfl
  | _ => rfl

theorem counter_apply (caller : Int) (callee : MethodUri) (kind : String) :
    (graph.apply op).counter caller callee kind =
      if op.submits caller callee kind then some ((graph.counter caller callee kind).getD 0 + 1)
      else graph.counter caller callee kind := by
  cases op with
  | addExternalCall c u k =>
    rw [apply, counter_addExternalCall]
    refine if_congr ?_ rfl rfl
    simp only [Operation.submits, MethodUri.parts_injective.eq_iff, decide_eq_true_eq,
      Prod.mk.injEq]
    exact and_congr eq_comm (and_congr eq_comm eq_comm)
  | addInternalCall c d => simp [apply, counter, Operation.submits]
  | addMethod id method => rfl
  | setSupertypes type supertypes => rfl

theorem externalKeys_apply :
    (graph.apply op).externalCalls.keys = withNew graph.externalCalls.keys op.external? := by
  cases op with
  | addExternalCall caller callee kind => exact Table.keys_update ..
  | addInternalCall caller callee => simp [apply, Operation.external?, withNew]
  | _ => rfl

theorem types_apply :
    (graph.apply op).hierarchy.keys = withNew graph.hierarchy.keys op.type? := by
  cases op with
  | addMethod id method => exact Table.keys_update ..
  | setSupertypes type supertypes => exact Table.keys_update ..
  | addInternalCall caller callee => simp [apply, Operation.type?, withNew]
  | addExternalCall caller callee kind => rfl

theorem methodAt_apply (type : TypeUri) (i : Int) :
    (graph.apply op).methodAt type i = (op.methodUnder? type i).or (graph.methodAt type i) := by
  cases op with
  | addMethod id method =>
    rw [apply, methodAt_addMethod, Operation.methodUnder?]
    simp only [eq_comm (a := type), eq_comm (a := i)]
    split <;> rfl
  | setSupertypes declarer supertypes => exact methodAt_setSupertypes ..
  | addInternalCall caller callee => simp [apply, methodAt, Operation.methodUnder?]
  | addExternalCall caller callee kind => rfl

theorem supertypesOf_apply (type : TypeUri) :
    (graph.apply op).supertypesOf type = (op.supertypesFor? type).or (graph.supertypesOf type) := by
  cases op with
  | addMethod id method =>
    rw [apply, supertypesOf, addMethod, updateType, Table.get?_update]
    split
    · next same =>
      subst same
      cases found : graph.hierarchy.get? method.typeUri <;>
        simp [found, supertypesOf, Operation.supertypesFor?, TypeMethods.unknown]
    · rfl
  | setSupertypes declarer supertypes =>
    rw [apply, supertypesOf, ArtifactGraph.setSupertypes, updateType, Table.get?_update,
      Operation.supertypesFor?]
    simp only [eq_comm (a := type)]
    split <;> rfl
  | addInternalCall caller callee => simp [apply, supertypesOf, Operation.supertypesFor?]
  | addExternalCall caller callee kind => rfl

end Step

/-! A whole run. Views that collect items and views that show the last item are
each followed through a run once. -/

section Run

variable {α : Type} (ops : List Operation)

theorem run_collects [DecidableEq α] [BEq α] [LawfulBEq α] (view : ArtifactGraph → List α)
    {item : Operation → Option α} (fresh : view ∅ = [])
    (step : ∀ graph op, view (graph.apply op) = withNew (view graph) (item op)) :
    view (run ops) = (ops.filterMap item).eraseDups := by
  induction ops using List.reverseRecOn with
  | nil => exact fresh
  | append_singleton ops op ih => rw [run_concat, step, ih, eraseDups_filterMap_concat]

theorem run_shows_last (view : ArtifactGraph → Option α) {item : Operation → Option α}
    (fresh : view ∅ = none) (step : ∀ graph op, view (graph.apply op) = (item op).or (view graph)) :
    view (run ops) = (ops.filterMap item).getLast? := by
  induction ops using List.reverseRecOn with
  | nil => exact fresh
  | append_singleton ops op ih =>
    rw [run_concat, step, ih, List.filterMap_append, List.getLast?_append]
    cases shown : item op <;> simp [shown]

theorem counter_run (caller : Int) (callee : MethodUri) (kind : String) :
    (run ops).counter caller callee kind =
      if ops.countP (Operation.submits caller callee kind) = 0 then none
      else some (ops.countP (Operation.submits caller callee kind)) := by
  induction ops using List.reverseRecOn with
  | nil => rfl
  | append_singleton ops op ih =>
    rw [run_concat, counter_apply, ih, List.countP_append, List.countP_singleton]
    cases op.submits caller callee kind with
    | false => rfl
    | true =>
      by_cases first : ops.countP (Operation.submits caller callee kind) = 0 <;> simp [first]

end Run

theorem isEmpty_iff {graph : ArtifactGraph} :
    graph.isEmpty = true ↔ graph.internalCalls = [] ∧ graph.externalCalls.keys = [] := by
  simp [isEmpty, Table.isEmpty, Table.keys]

private theorem eraseDups_eq_nil {α : Type} [BEq α] [LawfulBEq α] {xs : List α} :
    xs.eraseDups = [] ↔ xs = [] := by
  simp only [List.eq_nil_iff_forall_not_mem, List.mem_eraseDups]

theorem shows_run (ops : List Operation) : (run ops).Shows ops := by
  have internal := run_collects ops (fun graph => graph.internalCalls) rfl internalCalls_apply
  have external := run_collects ops (fun graph => graph.externalCalls.keys) rfl externalKeys_apply
  refine {
    internal := internal
    counters := counter_run ops
    external := external
    types := run_collects ops (fun graph => graph.hierarchy.keys) rfl types_apply
    methods := fun type i => run_shows_last ops (fun graph => graph.methodAt type i) rfl
      fun graph op => methodAt_apply graph op type i
    supertypes := fun type => run_shows_last ops (fun graph => graph.supertypesOf type) rfl
      fun graph op => supertypesOf_apply graph op type
    empty := ?_ }
  rw [isEmpty_iff, internal, external, eraseDups_eq_nil, eraseDups_eq_nil,
    List.filterMap_eq_nil_iff, List.filterMap_eq_nil_iff, ← forall₂_and]
  refine forall₂_congr fun op _ => ?_
  rw [← Bool.not_eq_true, Operation.isCall_iff]
  simp

/-- Graphs in which the same calls are counted equally often, in whatever order
they are listed. -/
structure SameCalls (a b : ArtifactGraph) : Prop where
  internal : ∀ pair, pair ∈ a.internalCalls ↔ pair ∈ b.internalCalls
  counters : ∀ caller callee kind, a.counter caller callee kind = b.counter caller callee kind

theorem sameCalls_run {ops ops' : List Operation}
    (reordered : (ops.filter Operation.isCall).Perm (ops'.filter Operation.isCall)) :
    SameCalls (run ops) (run ops') where
  internal pair := by
    have calls (ops : List Operation) :
        pair ∈ (run ops).internalCalls ↔
          ∃ op ∈ ops.filter Operation.isCall, op.internal? = some pair := by
      rw [(shows_run ops).internal, List.mem_eraseDups, List.mem_filterMap]
      refine exists_congr fun op => ?_
      rw [List.mem_filter, and_assoc]
      refine and_congr_right fun _ => (and_iff_right_of_imp fun submitted => ?_).symm
      exact Operation.isCall_iff.2 (.inl (by rw [submitted]; rfl))
    rw [calls, calls]
    exact exists_congr fun op => and_congr_left fun _ => reordered.mem_iff
  counters caller callee kind := by
    have calls (ops : List Operation) : ops.countP (Operation.submits caller callee kind) =
        (ops.filter Operation.isCall).countP (Operation.submits caller callee kind) := by
      rw [List.countP_filter]
      refine List.countP_congr fun op _ => ?_
      rw [Bool.and_eq_true]
      exact (and_iff_left_of_imp Operation.isCall_of_submits).symm
    rw [(shows_run ops).counters, (shows_run ops').counters, calls ops, calls ops',
      reordered.countP_eq]

/-- **A call graph shows its history.** After any operations in any order, the
internal calls are the distinct pairs that were submitted, by first submission;
a counter shows how often its caller, callee and kind were submitted together;
methods and supertypes are those that were set last. Operations on types and
operations on calls do not touch what the others change, and the order in which
calls are submitted changes neither which pairs there are nor any counter. -/
theorem run_shows_history :
    (∀ ops, (run ops).Shows ops) ∧
    (∀ (graph : ArtifactGraph) (op : Operation),
      (op.isCall = false → (graph.apply op).internalCalls = graph.internalCalls ∧
        (graph.apply op).externalCalls = graph.externalCalls) ∧
      (op.isCall = true → (graph.apply op).hierarchy = graph.hierarchy)) ∧
    (∀ ops ops' : List Operation,
      (ops.filter Operation.isCall).Perm (ops'.filter Operation.isCall) →
      SameCalls (run ops) (run ops')) :=
  ⟨shows_run, fun graph op => ⟨calls_apply graph op, hierarchy_apply graph op⟩,
    fun _ _ => sameCalls_run⟩

/-- A method without parameters. -/
def sampleMethod : MethodUri :=
  ⟨none, "p.q", "Sample", "items", [], ⟨"java.util", "List", 0, by decide, by decide⟩, by decide,
    by decide, by decide⟩

/-- Calls that are submitted several times, before and after what is said of
their caller. -/
def interleaved : List Operation :=
  [.addInternalCall 0 0, .addExternalCall 0 sampleMethod "invokestatic",
    .addMethod 0 sampleMethod, .addExternalCall 0 sampleMethod "invokevirtual",
    .addInternalCall 0 0, .setSupertypes sampleMethod.typeUri ⟨[], []⟩,
    .addExternalCall 0 sampleMethod "invokestatic"]

theorem run_shows_history_interleaved :
    (run interleaved).Shows interleaved ∧
    (Operation.isCall (.addMethod 1 sampleMethod) = false ∧
      ((run interleaved).addMethod 1 sampleMethod).internalCalls =
        (run interleaved).internalCalls ∧
      ((run interleaved).addMethod 1 sampleMethod).externalCalls =
        (run interleaved).externalCalls) ∧
    (Operation.isCall (.addInternalCall 0 1) = true ∧
      ((run interleaved).addInternalCall 0 1).hierarchy = (run interleaved).hierarchy) ∧
    ((interleaved.filter Operation.isCall).Perm (interleaved.reverse.filter Operation.isCall) ∧
      SameCalls (run interleaved) (run interleaved.reverse)) := by
  obtain ⟨shows, frame, reordered⟩ := run_shows_history
  have same : (interleaved.filter Operation.isCall).Perm
      (interleaved.reverse.filter Operation.isCall) := by
    rw [List.filter_reverse]
    exact (List.reverse_perm _).symm
  exact ⟨shows interleaved, ⟨rfl, (frame _ (.addMethod 1 sampleMethod)).1 rfl⟩,
    ⟨rfl, (frame _ (.addInternalCall 0 1)).2 rfl⟩, same, reordered _ _ same⟩

end ArtifactGraph
end CallGraph
