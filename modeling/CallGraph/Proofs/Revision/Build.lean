import CallGraph.Proofs.Table
import CallGraph.Proofs.Text.Cut
import CallGraph.Proofs.Text.Decimal
import CallGraph.Proofs.Uri.RoundTrip
import CallGraph.Revision.Validation

/-! Built documents. Types, numbers and external calls keep their places in a
document, since no two of them are written alike; and there is a document as soon
as all numbers can be written. -/
namespace CallGraph

theorem TypeUri.text_injective : Function.Injective TypeUri.text := by
  intro a b same
  have read := a.parse_text none
  rw [same, b.parse_text none] at read
  exact (Except.ok.inj read).symm

namespace Revision

/-- A key is cut where the caller's number ends. -/
theorem cutFirst?_externalKey (caller : Int) (callee : MethodUri) :
    Text.cutFirst? ',' (externalKey caller callee).toList =
      some (caller.repr.toList, callee.text.toList) := by
  have free : ',' ∉ caller.repr.toList := fun mem => by
    rcases Text.isAsciiDigit_of_mem_intRepr mem with digit | sign
    · exact absurd digit (by decide)
    · exact absurd sign (by decide)
  rw [externalKey, String.toList_append, String.toList_append, List.append_assoc]
  exact Text.cutFirst?_append free

theorem splitKey_externalKey (caller : Int) (callee : MethodUri) :
    splitKey (externalKey caller callee) = (caller.repr, callee.text) := by
  rw [splitKey, cutFirst?_externalKey]
  simp only [String.ofList_toList]

theorem externalKey_injective : Function.Injective fun key : Int × MethodUri =>
    externalKey key.1 key.2 := by
  rintro ⟨caller, callee⟩ ⟨caller', callee'⟩ same
  have split := congrArg splitKey same
  simp only [splitKey_externalKey, Prod.mk.injEq] at split
  obtain ⟨sameCaller, sameCallee⟩ := split
  rw [Text.intRepr_injective sameCaller, MethodUri.text_injective sameCallee]

theorem methods_typeEntry (known : TypeMethods) : (typeEntry known).methods.entries =
    known.methods.entries.map fun entry => (entry.1.repr, entry.2.text) :=
  known.methods.entries_ofList_renamed (fun _ _ => Text.intRepr_injective) MethodUri.text

variable (product version : String) (timestamp : Int) (depset : DependencySet)
  (graph : ArtifactGraph)

theorem cha_ofGraph : (ofGraph product version timestamp depset graph).cha.entries =
    graph.hierarchy.entries.map fun entry => (entry.1.text, typeEntry entry.2) :=
  graph.hierarchy.entries_ofList_renamed TypeUri.text_injective typeEntry

theorem externalCalls_ofGraph :
    (ofGraph product version timestamp depset graph).externalCalls.entries =
      graph.externalCalls.entries.map fun entry =>
        (externalKey entry.1.1 entry.1.2, entry.2.mapValues Nat.repr) :=
  graph.externalCalls.entries_ofList_renamed externalKey_injective fun counts =>
    counts.mapValues Nat.repr

/-- Every number that a document has as text can be written. -/
def Writable (graph : ArtifactGraph) : Prop := ∀ i ∈ writtenNumbers graph, Text.isWritable i = true

variable {product version timestamp depset graph}

theorem build_of_writable (writable : Writable graph) :
    build product version timestamp depset graph =
      .ok (ofGraph product version timestamp depset graph) := by
  have none : (writtenNumbers graph).find? (fun i => !Text.isWritable i) = none := by
    rw [List.find?_eq_none]
    intro i mem
    rw [writable i mem]
    exact Bool.false_ne_true
  rw [build, none]

theorem build_eq_error : (∃ e, build product version timestamp depset graph = .error e) ↔
    ¬ Writable graph := by
  constructor
  · rintro ⟨e, refused⟩ writable
    cases refused.symm.trans (build_of_writable writable)
  · intro unwritable
    obtain ⟨i, mem, long⟩ : ∃ i ∈ writtenNumbers graph, Text.isWritable i = false := by
      simpa [Writable] using unwritable
    obtain ⟨first, found⟩ := Option.isSome_iff_exists.1
      (List.find?_isSome (p := fun i => !Text.isWritable i) |>.2 ⟨i, mem, by rw [long]; rfl⟩)
    exact ⟨⟨first⟩, by rw [build, found]⟩

/-- There is a document exactly if all numbers can be written. -/
theorem build_eq_ok {doc : Revision} : build product version timestamp depset graph = .ok doc ↔
    Writable graph ∧ doc = ofGraph product version timestamp depset graph := by
  constructor
  · intro built
    have writable : Writable graph := by
      by_contra unwritable
      obtain ⟨e, refused⟩ := build_eq_error.2 unwritable
      cases refused.symm.trans built
    exact ⟨writable, (Except.ok.inj ((build_of_writable writable).symm.trans built)).symm⟩
  · rintro ⟨writable, rfl⟩
    exact build_of_writable writable

end Revision
end CallGraph
