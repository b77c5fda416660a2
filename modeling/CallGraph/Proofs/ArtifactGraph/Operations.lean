import CallGraph.ArtifactGraph
import CallGraph.Proofs.Table

/-! What each operation does to a call graph, seen from outside: which method a
type has under a number, which calls inside the artifact are known, and how
often a call out of it has been counted. An operation changes one of these
views and leaves the others as they were, and a run of one operation is
described by the same views. -/
namespace CallGraph.ArtifactGraph

/-- The method that a type has under a number. -/
def methodAt (graph : ArtifactGraph) (type : TypeUri) (id : Int) : Option MethodUri :=
  (graph.hierarchy.get? type).bind fun known => known.methods.get? id

/-- How often calls of a kind have been counted, and nothing if never. -/
def counter (graph : ArtifactGraph) (caller : Int) (callee : MethodUri) (kind : String) :
    Option Nat :=
  (graph.externalCalls.get? (caller, callee)).bind fun counts => counts.get? kind

/-- All calls out of the artifact that have been counted. -/
def externalTotal (graph : ArtifactGraph) : Nat :=
  graph.externalCalls.weight fun counts => counts.weight fun n => n

theorem methodAt_eq_some_iff {graph : ArtifactGraph} {type : TypeUri} {i : Int}
    {method : MethodUri} : graph.methodAt type i = some method ↔
      ∃ known, (type, known) ∈ graph.hierarchy.entries ∧ (i, method) ∈ known.methods.entries := by
  simp only [methodAt, Option.bind_eq_some_iff, Table.get?_eq_some_iff]

theorem counter_eq_some_iff {graph : ArtifactGraph} {caller : Int} {callee : MethodUri}
    {kind : String} {n : Nat} : graph.counter caller callee kind = some n ↔
      ∃ counts, ((caller, callee), counts) ∈ graph.externalCalls.entries ∧
        (kind, n) ∈ counts.entries := by
  simp only [counter, Option.bind_eq_some_iff, Table.get?_eq_some_iff]

/-! One step. -/

theorem methodAt_addMethod (graph : ArtifactGraph) (id : Int) (method : MethodUri)
    (type : TypeUri) (i : Int) :
    (graph.addMethod id method).methodAt type i =
      if type = method.typeUri ∧ i = id then some method else graph.methodAt type i := by
  unfold methodAt addMethod updateType
  simp only [Table.get?_update]
  by_cases same : type = method.typeUri
  · subst same
    simp only [if_true, Option.bind_some, Table.get?_insert, true_and]
    split
    · rfl
    · cases graph.hierarchy.get? method.typeUri <;> rfl
  · simp [same]

theorem methodAt_setSupertypes (graph : ArtifactGraph) (declarer : TypeUri)
    (supertypes : Supertypes) (type : TypeUri) (i : Int) :
    (graph.setSupertypes declarer supertypes).methodAt type i = graph.methodAt type i := by
  unfold methodAt setSupertypes updateType
  simp only [Table.get?_update]
  by_cases same : type = declarer
  · subst same
    simp only [if_true, Option.bind_some]
    cases graph.hierarchy.get? type <;> rfl
  · simp [same]

theorem addInternalCall_new {graph : ArtifactGraph} {caller callee : Int}
    (new : (caller, callee) ∉ graph.internalCalls) :
    (graph.addInternalCall caller callee).internalCalls =
      graph.internalCalls ++ [(caller, callee)] := by
  simp [addInternalCall, new]

@[simp] theorem hierarchy_addInternalCall (graph : ArtifactGraph) (caller callee : Int) :
    (graph.addInternalCall caller callee).hierarchy = graph.hierarchy := by
  unfold addInternalCall
  split <;> rfl

@[simp] theorem externalCalls_addInternalCall (graph : ArtifactGraph) (caller callee : Int) :
    (graph.addInternalCall caller callee).externalCalls = graph.externalCalls := by
  unfold addInternalCall
  split <;> rfl

theorem counter_addExternalCall (graph : ArtifactGraph) (caller : Int) (callee : MethodUri)
    (kind : String) (c : Int) (u : MethodUri) (k : String) :
    (graph.addExternalCall caller callee kind).counter c u k =
      if (c, u, k) = (caller, callee, kind) then some ((graph.counter c u k).getD 0 + 1)
      else graph.counter c u k := by
  unfold counter addExternalCall countCall
  simp only [Table.get?_update]
  by_cases same : (c, u) = (caller, callee)
  · obtain ⟨rfl, rfl⟩ := Prod.mk.inj same
    simp only [if_true, Option.bind_some, Table.get?_update, Prod.mk.injEq, true_and]
    by_cases kindSame : k = kind
    · subst kindSame
      cases graph.externalCalls.get? (c, u) <;> simp
    · cases graph.externalCalls.get? (c, u) <;> simp [kindSame]
  · have different : (c, u, k) ≠ (caller, callee, kind) := by
      simp only [ne_eq, Prod.mk.injEq] at same ⊢
      exact fun equal => same ⟨equal.1, equal.2.1⟩
    simp [same, different]

theorem externalTotal_addExternalCall (graph : ArtifactGraph) (caller : Int)
    (callee : MethodUri) (kind : String) :
    (graph.addExternalCall caller callee kind).externalTotal = graph.externalTotal + 1 := by
  refine Table.weight_update (fun counts => ?_) graph.externalCalls
  have counted : ∀ counts : CallCounts,
      (counts.update kind fun n => n.getD 0 + 1).weight (fun n => n) =
        counts.weight (fun n => n) + 1 :=
    Table.weight_update fun n => by cases n <;> rfl
  cases counts with
  | none => exact counted ∅
  | some counts => exact counted counts

theorem mem_keys_addExternalCall {graph : ArtifactGraph} {caller : Int} {callee : MethodUri}
    {kind : String} {key : Int × MethodUri} :
    key ∈ (graph.addExternalCall caller callee kind).externalCalls.keys ↔
      key = (caller, callee) ∨ key ∈ graph.externalCalls.keys :=
  Table.mem_keys_update

/-! A run of one operation. -/

section Runs

variable {α : Type}

/-- Enters a call inside the artifact for each item. -/
def addInternalCalls (pair : α → Int × Int) (xs : List α) (graph : ArtifactGraph) :
    ArtifactGraph :=
  xs.foldl (fun g x => g.addInternalCall (pair x).1 (pair x).2) graph

/-- Counts a call out of the artifact for each item. -/
def addExternalCalls (call : α → Int × MethodUri × String) (xs : List α)
    (graph : ArtifactGraph) : ArtifactGraph :=
  xs.foldl (fun g x => g.addExternalCall (call x).1 (call x).2.1 (call x).2.2) graph

theorem internalCalls_addInternalCalls {pair : α → Int × Int} {xs : List α}
    {graph : ArtifactGraph} (distinct : (graph.internalCalls ++ xs.map pair).Nodup) :
    (graph.addInternalCalls pair xs).internalCalls = graph.internalCalls ++ xs.map pair := by
  induction xs generalizing graph with
  | nil => simp [addInternalCalls]
  | cons x rest ih =>
    have new : pair x ∉ graph.internalCalls := fun mem =>
      (List.nodup_append.1 distinct).2.2 _ mem _ (by simp) rfl
    have step : (graph.addInternalCall (pair x).1 (pair x).2).internalCalls =
        graph.internalCalls ++ [pair x] := addInternalCall_new new
    rw [List.map_cons, ← List.singleton_append, ← List.append_assoc] at distinct
    rw [addInternalCalls, List.foldl_cons, ← addInternalCalls, ih (by rwa [step]), step]
    simp

@[simp] theorem hierarchy_addInternalCalls (pair : α → Int × Int) (xs : List α)
    (graph : ArtifactGraph) : (graph.addInternalCalls pair xs).hierarchy = graph.hierarchy := by
  induction xs generalizing graph with
  | nil => rfl
  | cons x rest ih => exact (ih _).trans (hierarchy_addInternalCall ..)

@[simp] theorem externalCalls_addInternalCalls (pair : α → Int × Int) (xs : List α)
    (graph : ArtifactGraph) :
    (graph.addInternalCalls pair xs).externalCalls = graph.externalCalls := by
  induction xs generalizing graph with
  | nil => rfl
  | cons x rest ih => exact (ih _).trans (externalCalls_addInternalCall ..)

variable (call : α → Int × MethodUri × String) (xs : List α) (graph : ArtifactGraph)

@[simp] theorem hierarchy_addExternalCalls :
    (graph.addExternalCalls call xs).hierarchy = graph.hierarchy := by
  induction xs generalizing graph with
  | nil => rfl
  | cons x rest ih => exact ih _

@[simp] theorem internalCalls_addExternalCalls :
    (graph.addExternalCalls call xs).internalCalls = graph.internalCalls := by
  induction xs generalizing graph with
  | nil => rfl
  | cons x rest ih => exact ih _

/-- What a counter shows after so many more calls: a counter that was never
moved is not there. -/
def moved (before : Option Nat) (n : Nat) : Option Nat :=
  if n = 0 then before else some (before.getD 0 + n)

/-- A counter moves once for each item that is a call of its caller, callee and
kind. -/
theorem counter_addExternalCalls (c : Int) (u : MethodUri) (k : String) :
    (graph.addExternalCalls call xs).counter c u k =
      moved (graph.counter c u k) (xs.countP fun x => call x = (c, u, k)) := by
  induction xs generalizing graph with
  | nil => rfl
  | cons x rest ih =>
    rw [addExternalCalls, List.foldl_cons, ← addExternalCalls, ih, counter_addExternalCall,
      List.countP_cons]
    by_cases same : call x = (c, u, k)
    · rw [if_pos same.symm, moved, moved, if_pos (decide_eq_true same)]
      by_cases none : rest.countP (fun x => call x = (c, u, k)) = 0
      · simp [none]
      · rw [if_neg none, if_neg (Nat.succ_ne_zero _), Option.getD_some, Nat.add_assoc,
          Nat.add_comm 1]
    · rw [if_neg (Ne.symm same), if_neg (by simpa using same), Nat.add_zero]

theorem externalTotal_addExternalCalls :
    (graph.addExternalCalls call xs).externalTotal = graph.externalTotal + xs.length := by
  induction xs generalizing graph with
  | nil => rfl
  | cons x rest ih =>
    rw [addExternalCalls, List.foldl_cons, ← addExternalCalls, ih, externalTotal_addExternalCall,
      List.length_cons]
    omega

theorem mem_keys_addExternalCalls {key : Int × MethodUri} :
    key ∈ (graph.addExternalCalls call xs).externalCalls.keys ↔
      key ∈ graph.externalCalls.keys ∨ ∃ x ∈ xs, key = ((call x).1, (call x).2.1) := by
  induction xs generalizing graph with
  | nil => simp [addExternalCalls]
  | cons x rest ih =>
    rw [addExternalCalls, List.foldl_cons, ← addExternalCalls, ih, mem_keys_addExternalCall]
    simp only [List.mem_cons, exists_eq_or_imp]
    rw [or_assoc, or_left_comm]

end Runs

end CallGraph.ArtifactGraph
