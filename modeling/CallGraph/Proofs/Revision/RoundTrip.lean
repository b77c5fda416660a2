import CallGraph.Proofs.Json.RoundTrip
import CallGraph.Proofs.Schema.Container
import CallGraph.Proofs.Table
import CallGraph.Revision.Reader
import CallGraph.Revision.Writer
import Mathlib.Algebra.Group.Int.Defs

/-! Documents are read back. The value that a document is written as follows the
schema and is read as that document, and so is its text in either layout. -/
namespace CallGraph.Revision
open Schema

/-! Parts of a document. -/

private theorem stringOrNull_nullable (text : Option String) :
    stringOrNull (nullable text) = .ok text := by
  cases text <;> rfl

private theorem readConstraint_json (range : Constraint) :
    readConstraint (constraintJson range) = .ok range := by
  simp [readConstraint, constraintJson, objectOf, required, find?, Json.member?,
    stringOrNull_nullable, Except.map]

private theorem readDependency_json (dependency : Dependency) :
    readDependency (dependencyJson dependency) = .ok dependency := by
  have ranges : readConstraints (.array (dependency.constraints.map constraintJson)) =
      .ok ⟨dependency.constraints, dependency.constraints_ne⟩ := by
    rw [readConstraints, listOf_map fun range _ => readConstraint_json range]
    obtain ⟨_, _, constraints, nonempty⟩ := dependency
    cases constraints with
    | nil => exact absurd rfl nonempty
    | cons range ranges => rfl
  simp [readDependency, dependencyJson, objectOf, required, Schema.optional, find?, Json.member?, ranges,
    Except.map]

private theorem stringsOrNull_list (items : List String) :
    stringsOrNull (stringList items) = .ok (some items) := by
  rw [stringsOrNull.eq_def, stringList]
  simp only [listOf_map fun item _ => string_string item]
  rfl

private theorem entriesOf_stringTable (table : Table String String) :
    entriesOf string (stringTable table) = .ok table.entries := by
  rw [stringTable, entriesOf_map string_string, List.map_id']

private theorem readTypeEntry_json (entry : TypeEntry) : readTypeEntry (typeEntryJson entry) = .ok entry := by
  obtain ⟨methods, superClasses, superInterfaces⟩ := entry
  cases superClasses <;> cases superInterfaces <;>
    simp [readTypeEntry, typeEntryJson, objectOf, Schema.optional, find?, Json.member?,
      entriesOf_stringTable, stringsOrNull_list, Except.map, Table.ofList_entries]

private theorem readInternalCall_json (call : Int × Int) :
    readInternalCall (internalCallJson call) = .ok call := rfl

private theorem readCalls_json (doc : Revision) :
    readCalls (graphJson doc) = .ok ⟨doc.internalCalls, doc.externalCalls⟩ := by
  have internal : listOf readInternalCall (.array (doc.internalCalls.map internalCallJson)) =
      .ok doc.internalCalls := listOf_map fun call _ => readInternalCall_json call
  have external : entriesOf (entriesOf string) (.object (doc.externalCalls.entries.map
      fun entry => (entry.1, stringTable entry.2))) =
      .ok (doc.externalCalls.entries.map fun entry => (entry.1, entry.2.entries)) :=
    entriesOf_map entriesOf_stringTable
  have written : graphJson doc = .object [
      ("internalCalls", .array (doc.internalCalls.map internalCallJson)),
      ("externalCalls", .object (doc.externalCalls.entries.map
        fun entry => (entry.1, stringTable entry.2)))] := rfl
  simp [readCalls, written, objectOf, Schema.optional, find?, Json.member?, internal, external,
    Except.map, Function.comp_def, Table.ofList_entries]

/-- The value that a document is written as is read as the document. -/
theorem ofJson_toJson (doc : Revision) : ofJson doc.toJson = .ok doc := by
  have depset : listOf (listOf readDependency)
      (.array (doc.depset.map fun block => .array (block.map dependencyJson))) = .ok doc.depset :=
    listOf_map fun block _ => listOf_map fun dependency _ => readDependency_json dependency
  have cha : entriesOf readTypeEntry
      (.object (doc.cha.entries.map fun entry => (entry.1, typeEntryJson entry.2))) =
      .ok doc.cha.entries := by
    rw [entriesOf_map readTypeEntry_json, List.map_id']
  simp [ofJson, toJson, objectOf, required, Schema.optional, find?, Json.member?, depset, cha,
    readCalls_json, Except.map, Table.ofList_entries]

/-! The text of a document. -/

section Plain

variable {n : Nat}

private theorem plain_nullable (text : Option String) : (nullable text).Plain n := by
  cases text with
  | none => exact .null
  | some text => exact .string text

private theorem plain_array {α : Type} {write : α → Json} {items : List α}
    (inside : ∀ a ∈ items, (write a).Plain n) : (Json.array (items.map write)).Plain (n + 1) :=
  .array (List.forall_mem_map.2 inside)

private theorem plain_object {α : Type} {write : α → Json} (table : Table String α)
    (inside : ∀ entry ∈ table.entries, (write entry.2).Plain n) :
    (Json.object (table.entries.map fun entry => (entry.1, write entry.2))).Plain (n + 1) := by
  refine .object ?_ (List.forall_mem_map.2 inside)
  rw [List.map_map]
  exact table.nodup

private theorem plain_stringList (items : List String) : (stringList items).Plain (n + 1) :=
  plain_array fun text _ => .string text

private theorem plain_stringTable (table : Table String String) :
    (stringTable table).Plain (n + 1) :=
  plain_object table fun entry _ => .string entry.2

private theorem plain_constraint (range : Constraint) : (constraintJson range).Plain (n + 1) :=
  .object (by simp) (by simp [plain_nullable])

private theorem plain_dependency (dependency : Dependency) :
    (dependencyJson dependency).Plain (n + 3) := by
  have ranges : (Json.array (dependency.constraints.map constraintJson)).Plain (n + 2) :=
    plain_array fun range _ => plain_constraint range
  exact .object (by simp) (by simpa [ranges] using ⟨.string _, .string _⟩)

private theorem plain_typeEntry (entry : TypeEntry) : (typeEntryJson entry).Plain (n + 2) := by
  obtain ⟨methods, superClasses, superInterfaces⟩ := entry
  cases superClasses <;> cases superInterfaces <;>
    exact .object (by simp) (by simp [plain_stringTable, plain_stringList])

private theorem plain_graph {doc : Revision} (fits : ∀ i ∈ doc.integers, Json.fitsDocument i = true) :
    (graphJson doc).Plain (n + 3) := by
  have internal : (Json.array (doc.internalCalls.map internalCallJson)).Plain (n + 2) := by
    refine plain_array fun call mem => .array ?_
    have ends : Json.fitsDocument call.1 = true ∧ Json.fitsDocument call.2 = true := by
      refine ⟨fits _ ?_, fits _ ?_⟩ <;>
        exact List.mem_append_left _ (List.mem_flatMap.2 ⟨call, mem, by simp⟩)
    simpa using ⟨.int ends.1, .int ends.2⟩
  have external : (Json.object (doc.externalCalls.entries.map
      fun entry => (entry.1, stringTable entry.2))).Plain (n + 2) :=
    plain_object doc.externalCalls fun entry _ => plain_stringTable entry.2
  exact .object (by simp) (by simpa using ⟨internal, external⟩)

theorem plain_toJson {doc : Revision} (fits : ∀ i ∈ doc.integers, Json.fitsDocument i = true) :
    doc.toJson.Plain 6 := by
  have depset : (Json.array (doc.depset.map fun block => .array (block.map dependencyJson))).Plain 5 :=
    plain_array fun block _ => plain_array fun dependency _ => plain_dependency dependency
  have cha : (Json.object (doc.cha.entries.map fun entry => (entry.1, typeEntryJson entry.2))).Plain 5 :=
    plain_object doc.cha fun entry _ => plain_typeEntry entry.2
  have timestamp : Json.fitsDocument doc.timestamp = true := fits _ (by simp [integers])
  refine .object (by simp) ?_
  simp only [List.forall_mem_cons, List.not_mem_nil, false_imp_iff, implies_true, and_true]
  exact ⟨.string _, .string _, .string _, .string _, depset, cha, plain_graph fits, .int timestamp⟩

end Plain

theorem render_fits {doc : Revision} (fits : ∀ i ∈ doc.integers, Json.fitsDocument i = true)
    (layout : Json.Layout) : doc.render layout = .ok (Json.text layout doc.toJson) := by
  have found : doc.integers.find? (fun i => !Json.fitsDocument i) = none := by
    simpa [List.find?_eq_none] using fits
  rw [render, found]

/-- A document whose integers fit is written, and its text is read as the
document. -/
theorem ofOctets?_render {doc : Revision} (fits : ∀ i ∈ doc.integers, Json.fitsDocument i = true)
    (layout : Json.Layout) {gap : List Char} (blank : ∀ c ∈ gap, Json.isSpace c = true) :
    ∃ text, doc.render layout = .ok text ∧
      (Json.ofOctets? .strict (Text.encodeUtf8 (text.toList ++ gap))).map ofJson = some (.ok doc) := by
  refine ⟨_, render_fits fits layout, ?_⟩
  rw [Json.ofOctets?_text (plain_toJson fits) (by decide) layout blank, Option.map_some,
    ofJson_toJson]

/-- An integer that 64 bits can hold, with a sign or without one. -/
def Holds64 (i : Int) : Prop := -2 ^ 63 ≤ i ∧ i < 2 ^ 64

theorem fitsDocument_iff (i : Int) : Json.fitsDocument i = true ↔ Holds64 i := by
  simp only [Json.fitsDocument, Holds64, Bool.and_eq_true, decide_eq_true_eq]
  omega

/-- **A document survives being written.** Where its integers fit into 64 bits,
it is written in either layout, the two texts are read as one value, and this
value follows the schema and is read as the document: with every name and text,
with the order of every list and table, with empty supertypes apart from unknown
ones, and with unknown bounds of versions. -/
theorem document_round_trip {doc : Revision} (timestamp : Holds64 doc.timestamp)
    (calls : ∀ call ∈ doc.internalCalls, Holds64 call.1 ∧ Holds64 call.2) :
    ∃ value, ofJson value = .ok doc ∧ ∀ layout, ∃ text, doc.render layout = .ok text ∧
      Json.ofOctets? .strict (Text.encodeUtf8 text.toList) = some value := by
  have fits : ∀ i ∈ doc.integers, Json.fitsDocument i = true := by
    intro i mem
    rw [fitsDocument_iff]
    obtain inside | outside := List.mem_append.1 mem
    · obtain ⟨call, callMem, here⟩ := List.mem_flatMap.1 inside
      rcases List.mem_cons.1 here with rfl | here
      · exact (calls call callMem).1
      · exact List.mem_singleton.1 here ▸ (calls call callMem).2
    · rw [List.mem_singleton.1 outside]
      exact timestamp
  refine ⟨doc.toJson, ofJson_toJson doc, fun layout => ⟨_, render_fits fits layout, ?_⟩⟩
  have read := Json.ofOctets?_text (plain_toJson fits) (by decide) layout
    (show ∀ c ∈ ([] : List Char), Json.isSpace c = true by simp)
  rwa [List.append_nil] at read

/-- A document with the least and the greatest integers, with characters that
are escaped, with an unknown bound, and with supertypes of which the classes are
known to be none and the interfaces are not known. -/
def extremes : Revision where
  forge := ""
  product := "g\x00:\"a\\"
  version := "\n\x1fé😀"
  generator := "WALA"
  depset := [[], [⟨"mvn", "b", [⟨none, some "*"⟩], by decide⟩]]
  cha := ⟨[("/a/T", ⟨⟨[("0", "")], by decide⟩, some [], none⟩)], by decide⟩
  internalCalls := [(18446744073709551615, -9223372036854775808), (0, 0)]
  externalCalls := ⟨[("0,", ⟨[("invokestatic", "1"), ("", "0")], by decide⟩), ("", ∅)], by decide⟩
  timestamp := -9223372036854775808

theorem document_round_trip_extremes :
    (Holds64 extremes.timestamp ∧
      ∀ call ∈ extremes.internalCalls, Holds64 call.1 ∧ Holds64 call.2) ∧
    ∃ value, ofJson value = .ok extremes ∧ ∀ layout, ∃ text, extremes.render layout = .ok text ∧
      Json.ofOctets? .strict (Text.encodeUtf8 text.toList) = some value := by
  have timestamp : Holds64 extremes.timestamp := by simp [Holds64, extremes]
  have calls : ∀ call ∈ extremes.internalCalls, Holds64 call.1 ∧ Holds64 call.2 := by
    simp [Holds64, extremes]
  exact ⟨⟨timestamp, calls⟩, document_round_trip timestamp calls⟩

end CallGraph.Revision
