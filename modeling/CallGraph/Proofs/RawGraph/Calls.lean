import CallGraph.Proofs.ArtifactGraph.Operations
import CallGraph.Proofs.Listing
import CallGraph.Proofs.Uri.RoundTrip
import CallGraph.RawGraph.Assembly
import Mathlib.Data.String.Basic

/-! Entering calls. Calls are entered in the order of their ends, which is the
same whatever order they were read in. Inside the artifact a call is entered
once, and out of the artifact as often as it was read. -/
namespace CallGraph.RawGraph
open Listing

namespace Call

/-- The ends of a call inside the artifact. -/
def internal? : Call → Option (Nat × Nat)
  | .internal caller callee => some (caller, callee)
  | .external .. => none

/-- The ends and the kind of a call out of the artifact. -/
def external? : Call → Option (Nat × MethodUri × CallKind)
  | .internal .. => none
  | .external caller callee kind => some (caller, callee, kind)

theorem internal?_eq_some_iff {call : Call} {caller callee : Nat} :
    call.internal? = some (caller, callee) ↔ call = .internal caller callee := by
  cases call <;> simp [internal?]

theorem external?_eq_some_iff {call : Call} {caller : Nat} {callee : MethodUri} {kind : CallKind} :
    call.external? = some (caller, callee, kind) ↔ call = .external caller callee kind := by
  cases call <;> simp [external?]

end Call

variable {calls calls' : List Call}

theorem name_injective : Function.Injective CallKind.name := by
  intro a b
  cases a <;> cases b <;> decide

/-- The order in which calls inside the artifact are entered. -/
private def internalBefore (a b : Nat × Nat) : Bool := a.1 < b.1 || (a.1 == b.1 && a.2 ≤ b.2)

private theorem internalBefore_iff (a b : Nat × Nat) :
    internalBefore a b = true ↔ toLex a ≤ toLex b := by
  rw [Prod.Lex.toLex_le_toLex, internalBefore]
  simp only [Bool.or_eq_true, Bool.and_eq_true, decide_eq_true_eq, beq_iff_eq]

private theorem internalCalls_eq (calls : List Call) : internalCalls calls =
    (calls.filterMap Call.internal?).eraseDups.mergeSort internalBefore := by
  have same : Call.internal? = fun
      | .internal caller callee => some (caller, callee)
      | .external .. => none := by
    funext call
    cases call <;> rfl
  rw [same]
  rfl

/-- The key by which calls out of the artifact are entered. -/
private def enteringKey (call : Nat × MethodUri × CallKind) : Nat ×ₗ String ×ₗ String :=
  toLex (call.1, toLex (call.2.1.text, call.2.2.name))

private theorem enteringKey_injective : Function.Injective enteringKey := by
  rintro ⟨caller, callee, kind⟩ ⟨caller', callee', kind'⟩ same
  obtain ⟨sameCaller, rest⟩ := Prod.mk.inj same
  obtain ⟨sameCallee, sameKind⟩ := Prod.mk.inj rest
  obtain rfl : caller = caller' := sameCaller
  obtain rfl : callee = callee' := MethodUri.text_injective sameCallee
  obtain rfl : kind = kind' := name_injective sameKind
  rfl

private theorem enteredBefore_iff (a b : Nat × MethodUri × CallKind) :
    enteredBefore a b = true ↔ enteringKey a ≤ enteringKey b := by
  rw [enteringKey, enteringKey, Prod.Lex.toLex_le_toLex, enteredBefore]
  simp only [Prod.Lex.toLex_le_toLex, Bool.or_eq_true, Bool.and_eq_true, decide_eq_true_eq,
    beq_iff_eq]

private theorem externalCalls_eq (calls : List Call) :
    externalCalls calls = (calls.filterMap Call.external?).mergeSort enteredBefore := by
  have same : Call.external? = fun
      | .internal .. => none
      | .external caller callee kind => some (caller, callee, kind) := by
    funext call
    cases call <;> rfl
  rw [same]
  rfl

theorem internalCalls_perm (perm : calls.Perm calls') : internalCalls calls = internalCalls calls' := by
  rw [internalCalls_eq, internalCalls_eq]
  exact mergeSort_perm_eq internalBefore_iff toLex.injective
    (eraseDups_perm fun _ => (perm.filterMap _).mem_iff)

theorem externalCalls_perm (perm : calls.Perm calls') : externalCalls calls = externalCalls calls' := by
  rw [externalCalls_eq, externalCalls_eq]
  exact mergeSort_perm_eq enteredBefore_iff enteringKey_injective (perm.filterMap _)

/-- Which graph results depends only on which calls are entered, each counted
as often as it was read. -/
theorem enterCalls_perm (graph : ArtifactGraph) (perm : calls.Perm calls') :
    enterCalls graph calls = enterCalls graph calls' := by
  rw [enterCalls, enterCalls, internalCalls_perm perm, externalCalls_perm perm]

theorem mem_internalCalls {caller callee : Nat} :
    (caller, callee) ∈ internalCalls calls ↔ .internal caller callee ∈ calls := by
  simp [internalCalls_eq, Call.internal?_eq_some_iff]

theorem mem_externalCalls {caller : Nat} {callee : MethodUri} {kind : CallKind} :
    (caller, callee, kind) ∈ externalCalls calls ↔ .external caller callee kind ∈ calls := by
  simp [externalCalls_eq, Call.external?_eq_some_iff]

theorem internalCalls_increasing (calls : List Call) :
    (internalCalls calls).Pairwise fun a b => toLex a < toLex b := by
  rw [internalCalls_eq]
  exact pairwise_mergeSort_lt internalBefore_iff toLex.injective _

/-- The two numbers of a call as the artifact's graph holds them. -/
def asPair (call : Nat × Nat) : Int × Int := (call.1, call.2)

theorem asPair_injective : Function.Injective asPair := by
  rintro ⟨a, b⟩ ⟨a', b'⟩ same
  obtain ⟨first, second⟩ := Prod.mk.inj same
  obtain rfl : a = a' := Int.ofNat.inj first
  obtain rfl : b = b' := Int.ofNat.inj second
  rfl

/-- The arguments with which a call out of the artifact is entered. -/
def asEntry (call : Nat × MethodUri × CallKind) : Int × MethodUri × String :=
  (call.1, call.2.1, call.2.2.name)

/-- Entering calls is a run of one operation and then a run of another. -/
theorem enterCalls_eq (graph : ArtifactGraph) (calls : List Call) : enterCalls graph calls =
    (graph.addInternalCalls asPair (internalCalls calls)).addExternalCalls asEntry
      (externalCalls calls) := rfl

variable {graph : ArtifactGraph}

@[simp] theorem hierarchy_enterCalls (graph : ArtifactGraph) (calls : List Call) :
    (enterCalls graph calls).hierarchy = graph.hierarchy := by
  simp [enterCalls_eq]

@[simp] theorem methodAt_enterCalls (graph : ArtifactGraph) (calls : List Call) :
    (enterCalls graph calls).methodAt = graph.methodAt := by
  funext type i
  simp [ArtifactGraph.methodAt]

/-- A graph without calls receives the calls inside the artifact in order. -/
theorem internalCalls_enterCalls (fresh : graph.internalCalls = []) (calls : List Call) :
    (enterCalls graph calls).internalCalls = (internalCalls calls).map asPair := by
  have distinct : (internalCalls calls).Nodup :=
    (internalCalls_increasing calls).imp fun less same => less.ne (congrArg toLex same)
  rw [enterCalls_eq, ArtifactGraph.internalCalls_addExternalCalls,
    ArtifactGraph.internalCalls_addInternalCalls
      (by simpa [fresh] using distinct.map asPair_injective),
    fresh, List.nil_append]

/-- Calls out of the artifact are entered under their callers and callees. -/
theorem exists_externalCall (fresh : graph.externalCalls = ∅) {calls : List Call}
    {key : Int × MethodUri} (mem : key ∈ (enterCalls graph calls).externalCalls.keys) :
    ∃ (caller : Nat) (kind : CallKind), key.1 = caller ∧ .external caller key.2 kind ∈ calls := by
  rw [enterCalls_eq, ArtifactGraph.mem_keys_addExternalCalls,
    ArtifactGraph.externalCalls_addInternalCalls, fresh] at mem
  obtain nothing | ⟨⟨caller, callee, kind⟩, entered, rfl⟩ := mem
  · simp [Table.keys] at nothing
  · exact ⟨caller, kind, rfl, mem_externalCalls.1 entered⟩

/-- What a counter shows is how many of the calls are its own. -/
theorem counter_enterCalls (fresh : graph.externalCalls = ∅) (calls : List Call) (c : Int)
    (u : MethodUri) (k : String) : (enterCalls graph calls).counter c u k =
      ArtifactGraph.moved none
        (calls.countP fun call => call.external?.map asEntry = some (c, u, k)) := by
  have unmoved : (graph.addInternalCalls asPair (internalCalls calls)).counter c u k = none := by
    rw [ArtifactGraph.counter, ArtifactGraph.externalCalls_addInternalCalls, fresh]
    rfl
  have counted : (externalCalls calls).countP (fun call => asEntry call = (c, u, k)) =
      calls.countP fun call => call.external?.map asEntry = some (c, u, k) := by
    rw [externalCalls_eq, (List.mergeSort_perm _ _).countP_eq, List.countP_filterMap]
    apply List.countP_congr
    intro call _
    cases call <;> simp [Call.external?]
  rw [enterCalls_eq, ArtifactGraph.counter_addExternalCalls, unmoved, counted]

/-- All counters together show how many of the calls leave the artifact. -/
theorem externalTotal_enterCalls (fresh : graph.externalCalls = ∅) (calls : List Call) :
    (enterCalls graph calls).externalTotal = calls.countP fun call => call.external?.isSome := by
  have nothing : (graph.addInternalCalls asPair (internalCalls calls)).externalTotal = 0 := by
    rw [ArtifactGraph.externalTotal, ArtifactGraph.externalCalls_addInternalCalls, fresh]
    rfl
  rw [enterCalls_eq, ArtifactGraph.externalTotal_addExternalCalls, nothing, externalCalls_eq,
    (List.mergeSort_perm _ _).length_eq, List.length_filterMap_eq_countP, Nat.zero_add]

end CallGraph.RawGraph
