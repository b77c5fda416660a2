import CallGraph.Proofs.Revision.Findings

/-! Which URIs of a document validation reads. A document has URIs in five
places. Those of types, of their methods and of the methods called outside the
artifact are read, so an accepted document has none there that cannot be. The
URIs of supertypes are read by no check: whatever stands in their place, the
findings stay the same. -/
namespace CallGraph.Revision
open Listing

/-- The places where a document has URIs. -/
inductive UriPlace where
  | type
  | method
  | superClass
  | superInterface
  | callee
deriving DecidableEq

namespace UriPlace

def isSupertype : UriPlace → Bool
  | .superClass | .superInterface => true
  | .type | .method | .callee => false

/-- The text is a URI such as the place is for. -/
def Reads : UriPlace → String → Prop
  | .type, text | .superClass, text | .superInterface, text =>
    ∃ type, TypeUri.parse text none = .ok type
  | .method, text | .callee, text => ∃ method, MethodUri.parse text = .ok method

end UriPlace

/-- The text stands in one of the places of the document. -/
inductive HasUri (doc : Revision) : UriPlace → String → Prop
  | type {key : String} {entry : TypeEntry} (mem : (key, entry) ∈ doc.cha.entries) :
      HasUri doc .type key
  | method {key id uri : String} {entry : TypeEntry} (mem : (key, entry) ∈ doc.cha.entries)
      (here : (id, uri) ∈ entry.methods.entries) : HasUri doc .method uri
  | superClass {key uri : String} {entry : TypeEntry} {uris : List String}
      (mem : (key, entry) ∈ doc.cha.entries) (known : entry.superClasses = some uris)
      (here : uri ∈ uris) : HasUri doc .superClass uri
  | superInterface {key uri : String} {entry : TypeEntry} {uris : List String}
      (mem : (key, entry) ∈ doc.cha.entries) (known : entry.superInterfaces = some uris)
      (here : uri ∈ uris) : HasUri doc .superInterface uri
  /-- What follows the first comma of a key, if it has one. -/
  | callee {key : String} {counts : Table String String}
      (mem : (key, counts) ∈ doc.externalCalls.entries) : HasUri doc .callee (splitKey key).2

/-- The documents list the same methods under the same types, have the same
calls and name the same makers. -/
structure AgreeBesideSupertypes (doc other : Revision) : Prop where
  methods : (doc.cha.entries.map fun entry => (entry.1, entry.2.methods)) =
    other.cha.entries.map fun entry => (entry.1, entry.2.methods)
  internal : doc.internalCalls = other.internalCalls
  external : doc.externalCalls = other.externalCalls
  forge : doc.forge = other.forge
  generator : doc.generator = other.generator

variable {doc other : Revision} {findings : Findings}

/-- Beside supertypes, every URI of a consistent document can be read. -/
theorem SelfConsistent.reads (consistent : SelfConsistent doc) {place : UriPlace} {text : String}
    (has : doc.HasUri place text) (beside : place.isSupertype = false) : place.Reads text := by
  cases has with
  | type mem =>
    obtain ⟨type, read, -⟩ := consistent.types _ mem
    exact ⟨type, read⟩
  | method mem here =>
    obtain ⟨type, -, own⟩ := consistent.types _ mem
    obtain ⟨method, read, -⟩ := own _ (List.mem_map_of_mem here)
    exact ⟨method, read⟩
  | superClass => cases beside
  | superInterface => cases beside
  | callee mem =>
    obtain ⟨caller, callee, same, free, -, method, read⟩ := consistent.external _ mem
    rw [(splitKey_eq_iff read).2 ⟨same, free⟩]
    exact ⟨method, read⟩

/-- The check of types looks at their methods and at nothing else. -/
theorem checkTypes_congr {seen : List Nat} {entries entries' : List (String × TypeEntry)}
    (same : (entries.map fun entry => (entry.1, entry.2.methods)) =
      entries'.map fun entry => (entry.1, entry.2.methods)) :
    checkTypes seen entries = checkTypes seen entries' := by
  induction entries generalizing seen entries' with
  | nil =>
    obtain rfl := List.map_eq_nil_iff.1 same.symm
    rfl
  | cons entry rest ih =>
    obtain ⟨⟨key', entry'⟩, rest', rfl, first, later⟩ := List.map_eq_cons_iff.1 same.symm
    obtain ⟨key, entry⟩ := entry
    obtain ⟨rfl, methods⟩ : key' = key ∧ entry'.methods = entry.methods := Prod.mk.inj first
    have more : ∀ seen, checkTypes seen rest = checkTypes seen rest' := fun _ => ih later.symm
    simp only [checkTypes, methods, more]

theorem AgreeBesideSupertypes.validate (agree : AgreeBesideSupertypes doc other) :
    doc.validate = other.validate := by
  rw [Revision.validate, Revision.validate, checkTypes_congr agree.methods, agree.internal,
    agree.external, agree.forge, agree.generator]

/-- The findings in a file are those in the document that it holds. -/
theorem Holds.validateFile_eq [Platform] {contents : Except SystemError Octets}
    (holds : Holds contents doc) : validateFile contents = doc.validate := by
  obtain ⟨octets, value, rfl, content, schema⟩ := holds
  simp only [validateFile, content, schema]

/-- **Of the URIs of an accepted document, all but those of supertypes can be
read.** A file in which validation finds no error holds a document, and every
text in it that stands for a type, for a method of it or for a method called
outside the artifact is the URI of one. Of the texts that stand for supertypes
nothing is known: any file whose document differs in them has the same
findings. -/
theorem validateFile_uris [Platform] {contents : Except SystemError Octets}
    (judged : validateFile contents = .ok findings) (quiet : findings.errors = []) :
    ∃ doc, Holds contents doc ∧
      (∀ place text, doc.HasUri place text → place.isSupertype = false → place.Reads text) ∧
      ∀ contents' other, Holds contents' other → AgreeBesideSupertypes doc other →
        validateFile contents' = .ok findings := by
  obtain ⟨doc, holds, same⟩ | ⟨-, finding, reported, -⟩ := validateFile_cases contents
  · rw [same] at judged
    obtain ⟨numbers, consistent⟩ := consistent_of_validate judged quiet
    refine ⟨doc, holds, fun place text has => consistent.selfConsistent.reads has, ?_⟩
    intro contents' other holds' agree
    rw [holds'.validateFile_eq, ← agree.validate, judged]
  · obtain rfl := Except.ok.inj (reported.symm.trans judged)
    cases quiet

/-- A file with the text of a document holds the document. -/
theorem holds_text (layout : Json.Layout) (fits : ∀ i ∈ doc.integers, Json.fitsDocument i = true) :
    Holds (.ok (Text.encodeUtf8 (Json.text layout doc.toJson).toList)) doc := by
  have nothing : ∀ c ∈ ([] : List Char), Json.isSpace c = true := by simp
  have read := Json.ofOctets?_text (plain_toJson fits) (by decide) layout nothing
  rw [List.append_nil] at read
  exact ⟨_, doc.toJson, rfl, read, ofJson_toJson doc⟩

/-- A document with one type, of which one superclass is known. -/
def oneType (superClass : String) : Revision where
  forge := forgeName
  product := "g:a"
  version := "1"
  generator := generatorName
  depset := []
  cha := ⟨[("/a/T", ⟨⟨[("0", "/a/T.f()%2Fjava.lang%2FVoidType")], by decide⟩, some [superClass],
    none⟩)], List.nodup_singleton _⟩
  internalCalls := [(0, 0)]
  externalCalls := ∅
  timestamp := 0

/-- The text of the document. -/
def oneTypeText (superClass : String) : Octets :=
  Text.encodeUtf8 (Json.text .compact (oneType superClass).toJson).toList

theorem holds_oneType (superClass : String) :
    Holds (.ok (oneTypeText superClass)) (oneType superClass) := by
  refine holds_text .compact ?_
  show ∀ i ∈ [(0 : Int), 0, 0], Json.fitsDocument i = true
  decide

section

open scoped Platform

/-- The superclass may be a type that can be read, or a text that cannot. -/
theorem validateFile_uris_superclass :
    validateFile (.ok (oneTypeText "/a/U")) = .ok ⟨[], []⟩ ∧
    (∀ place text, (oneType "/a/U").HasUri place text → place.isSupertype = false →
      place.Reads text) ∧
    validateFile (.ok (oneTypeText "a.U")) = .ok ⟨[], []⟩ := by
  have accepted : validateFile (.ok (oneTypeText "/a/U")) = .ok ⟨[], []⟩ := by
    rw [(holds_oneType "/a/U").validateFile_eq]
    decide +kernel
  obtain ⟨doc, holds, reads, others⟩ := validateFile_uris accepted rfl
  obtain rfl := holds.unique (holds_oneType "/a/U")
  exact ⟨accepted, reads, others _ _ (holds_oneType "a.U") ⟨rfl, rfl, rfl, rfl, rfl⟩⟩

/-- A document is accepted although its one superclass is no URI. -/
theorem validateFile_unreadSuperclass : ∃ doc, Holds (.ok (oneTypeText "a.U")) doc ∧
    validateFile (.ok (oneTypeText "a.U")) = .ok ⟨[], []⟩ ∧
    doc.HasUri .superClass "a.U" ∧ ¬ UriPlace.Reads .superClass "a.U" := by
  have accepted : (oneType "a.U").validate = .ok ⟨[], []⟩ := by decide +kernel
  refine ⟨_, holds_oneType "a.U", (holds_oneType "a.U").validateFile_eq.trans accepted,
    .superClass List.mem_cons_self rfl List.mem_cons_self, ?_⟩
  rintro ⟨type, read⟩
  have refused : (TypeUri.parse "a.U" none).isOk = false := by decide
  rw [read] at refused
  cases refused

end

end CallGraph.Revision
