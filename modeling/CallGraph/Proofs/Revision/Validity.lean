import CallGraph.Proofs.Listing
import CallGraph.Proofs.Text.Decimal
import CallGraph.Revision.Validation

/-! Consistent documents pass validation. Consistency says what the numbers of
the methods are and asks everything else of them: they are distinct, and calls
go between them. -/
namespace CallGraph.Revision
open Listing

variable {numbers : List Nat}

theorem numberOf?_repr {n : Nat} (short : n.repr.toList.length ≤ Text.maxDigits) :
    numberOf? n.repr = .ok (some n) := by
  rw [numberOf?, if_pos (Text.allDigits_repr n), Text.numeral_repr short]
  rfl

/-- The method of an entry can be read, belongs to the type and has the
number. -/
def Declares (type : TypeUri) (entry : String × String) (number : Nat) : Prop :=
  numberOf? entry.1 = .ok (some number) ∧ checkMethod type entry.2 = none

/-- The type of an entry can be read and declares methods with the numbers. -/
def Lists (entry : String × TypeEntry) (numbers : List Nat) : Prop :=
  ∃ type, TypeUri.parse entry.1 none = .ok type ∧
    List.Forall₂ (Declares type) entry.2.methods.entries numbers

/-- Number lists for the types of a document under which nothing is wrong. -/
structure Consistent (doc : Revision) (numbers : List (List Nat)) : Prop where
  types : List.Forall₂ Lists doc.cha.entries numbers
  distinct : numbers.flatten.Nodup
  internal : ∀ call ∈ doc.internalCalls, ∀ i ∈ [call.1, call.2], ∃ n ∈ numbers.flatten, i = (n : Int)
  external : ∀ entry ∈ doc.externalCalls.entries, ∃ caller callee number method,
    splitKey entry.1 = (caller, callee) ∧ numberOf? caller = .ok (some number) ∧
      number ∈ numbers.flatten ∧ MethodUri.parse callee = .ok method
  counts : ∀ entry ∈ doc.externalCalls.entries, ∀ count ∈ entry.2.entries,
    ∃ n, numberOf? count.2 = .ok (some (n + 1))
  forge : doc.forge = forgeName
  generator : doc.generator = generatorName

/-! Types and methods. -/

/-- Where the methods of a type have new numbers, these are found and nothing
is reported. -/
theorem checkMethods_new {type : TypeUri} {seen : List Nat} {entries : List (String × String)}
    (declared : List.Forall₂ (Declares type) entries numbers) (new : (numbers ++ seen).Nodup) :
    checkMethods type seen entries = .ok (numbers.reverse ++ seen, []) := by
  induction declared generalizing seen with
  | nil => rfl
  | @cons entry number entries numbers first _ ih =>
    rw [List.cons_append, List.nodup_cons] at new
    have unseen : number ∉ seen := fun mem => new.1 (List.mem_append_right _ mem)
    have later := ih (List.perm_middle.nodup_iff.2 (List.nodup_cons.2 new))
    rw [List.reverse_cons, List.append_assoc, List.singleton_append]
    simp [checkMethods, first.1, first.2, later, unseen, bind, Except.bind, pure, Except.pure]

/-- Numbers that have been found stand before the others, in reverse. -/
theorem perm_found (new later seen : List Nat) :
    (new ++ (later ++ seen)).Perm (later ++ (new.reverse ++ seen)) := by
  rw [← List.append_assoc, ← List.append_assoc]
  exact (List.perm_append_comm.trans (.append_left _ (List.reverse_perm _).symm)).append_right seen

theorem checkTypes_new {seen : List Nat} {entries : List (String × TypeEntry)}
    {numbers : List (List Nat)} (listed : List.Forall₂ Lists entries numbers)
    (new : (numbers.flatten ++ seen).Nodup) :
    checkTypes seen entries = .ok (numbers.flatten.reverse ++ seen, []) := by
  induction listed generalizing seen with
  | nil => rfl
  | @cons entry numbers entries rest first _ ih =>
    obtain ⟨type, read, declared⟩ := first
    rw [List.flatten_cons, List.append_assoc] at new
    have moved : (rest.flatten ++ (numbers.reverse ++ seen)).Nodup :=
      (perm_found numbers rest.flatten seen).nodup new
    have distinct : (numbers ++ seen).Nodup :=
      ((List.sublist_append_right rest.flatten seen).append_left numbers).nodup new
    rw [List.flatten_cons, List.reverse_append, List.append_assoc]
    simp [checkTypes, read, checkMethods_new declared distinct, ih moved, bind, Except.bind, pure,
      Except.pure]

/-! Calls. -/

theorem checkInternalCall_known {call : Int × Int}
    (known : ∀ i ∈ [call.1, call.2], ∃ n ∈ numbers, i = (n : Int)) :
    checkInternalCall numbers call = [] := by
  have listed : ∀ i ∈ [call.1, call.2], (numbers.map Int.ofNat).contains i = true := by
    intro i mem
    obtain ⟨n, found, rfl⟩ := known i mem
    exact List.contains_iff_mem.2 (List.mem_map.2 ⟨n, found, rfl⟩)
  have none : [call.1, call.2].filter (fun i => !(numbers.map Int.ofNat).contains i) = [] :=
    List.filter_eq_nil_iff.2 fun i mem => by rw [listed i mem]; decide
  rw [checkInternalCall, none, List.map_nil]

theorem checkCount_positive {count : String} {n : Nat} (read : numberOf? count = .ok (some (n + 1)))
    (kind : String) : checkCount count kind = .ok none := by
  simp [checkCount, read, bind, Except.bind, pure, Except.pure]

private theorem mapM_quiet {α β : Type} {f : α → Judged β} {items : List α} (quiet : β)
    (each : ∀ item ∈ items, f item = .ok quiet) :
    items.mapM f = .ok (List.replicate items.length quiet) :=
  mapM_eq_ok.2 (by
    induction items with
    | nil => exact .nil
    | cons item rest ih =>
      exact .cons (each item List.mem_cons_self)
        (ih fun other mem => each other (List.mem_cons_of_mem item mem)))

theorem checkExternalCall_known {key caller callee : String} {number : Nat} {method : MethodUri}
    {counts : Table String String} (split : splitKey key = (caller, callee))
    (named : numberOf? caller = .ok (some number)) (known : number ∈ numbers)
    (read : MethodUri.parse callee = .ok method)
    (positive : ∀ count ∈ counts.entries, ∃ n, numberOf? count.2 = .ok (some (n + 1))) :
    checkExternalCall numbers key counts = .ok [] := by
  have called : checkCaller numbers caller = .ok none := by
    simp [checkCaller, named, known, bind, Except.bind, pure, Except.pure]
  rw [checkExternalCall, split]
  simp only [called, read]
  rw [mapM_quiet none]
  · simp [bind, Except.bind, pure, Except.pure]
  · intro count mem
    obtain ⟨n, read⟩ := positive count mem
    exact checkCount_positive read count.1

/-! Documents. -/

/-- Validation reports nothing about a consistent document. -/
theorem Consistent.validate {doc : Revision} {numbers : List (List Nat)}
    (consistent : Consistent doc numbers) : doc.validate = .ok ⟨[], []⟩ := by
  have types : checkTypes [] doc.cha.entries = .ok (numbers.flatten.reverse ++ [], []) :=
    checkTypes_new consistent.types (by simpa using consistent.distinct)
  rw [List.append_nil] at types
  have internal : doc.internalCalls.flatMap (checkInternalCall numbers.flatten.reverse) = [] := by
    refine List.flatMap_eq_nil_iff.2 fun call mem => checkInternalCall_known fun i here => ?_
    obtain ⟨n, found, same⟩ := consistent.internal call mem i here
    exact ⟨n, List.mem_reverse.2 found, same⟩
  rw [Revision.validate, types]
  simp only [bind, Except.bind]
  rw [mapM_quiet []]
  · simp [internal, checkName, consistent.forge, consistent.generator, pure, Except.pure]
  · intro entry mem
    obtain ⟨caller, callee, number, method, split, named, known, read⟩ := consistent.external entry mem
    exact checkExternalCall_known split named (List.mem_reverse.2 known) read
      (consistent.counts entry mem)

end CallGraph.Revision
