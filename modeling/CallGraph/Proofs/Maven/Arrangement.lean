import CallGraph.Proofs.Maven.Declared
import Mathlib.Logic.Relation

/-! The arrangement of a build file. At each place elements are sought by their
local names, and the first one or all of them in order are read; whatever else
stands there is passed over. So a document may be edited in three ways that do
not show: elements are moved to another namespace, parts are put in that are not
sought, and parts change places while those with the same name keep their order.
What is in an element that is passed over may be anything. -/
namespace CallGraph.Xml

/-- The local name of an element. -/
def Node.name? : Node → Option String
  | .element _ name _ => some name
  | .text _ => none

namespace Node

variable {name : String} {node : Node}

theorem name?_eq_some_iff : node.name? = some name ↔ node.IsNamed name := by
  cases node with
  | text _ => simp [name?, IsNamed]
  | element ns found children => simp [name?, IsNamed]

/-- The elements with a name, in their order. -/
def allNamed (name : String) (content : List Node) : List Node :=
  content.filter fun node => node.name? = some name

theorem childrenNamed_allNamed (name : String) (content : List Node) :
    childrenNamed name (allNamed name content) = childrenNamed name content := by
  induction content with
  | nil => rfl
  | cons node content ih =>
    by_cases named : node.IsNamed name
    · have kept := name?_eq_some_iff.2 named
      obtain ⟨ns, children, rfl⟩ := named
      rw [allNamed, List.filter_cons_of_pos (by simpa using kept), ← allNamed,
        childrenNamed_named, childrenNamed_named, ih]
    · have left : ¬ node.name? = some name := fun same => named (name?_eq_some_iff.1 same)
      rw [allNamed, List.filter_cons_of_neg (by simpa using left), ← allNamed, ih,
        childrenNamed_other named]

theorem allNamed_of_lacks {content : List Node} (lacks : Lacks name content) :
    allNamed name content = [] := by
  refine List.filter_eq_nil_iff.2 fun node mem => ?_
  have unnamed : ¬ node.name? = some name := fun same => lacks node mem (name?_eq_some_iff.1 same)
  simpa using unnamed

theorem textOf_append (before after : List Node) :
    textOf (before ++ after) = textOf before ++ textOf after := by
  induction before with
  | nil => simp [textOf]
  | cons node before ih => rw [List.cons_append, textOf, textOf, ih, String.append_assoc]

end Node

end CallGraph.Xml

namespace CallGraph.Maven.Pom
open Listing
open Xml (Node)
open Xml.Node

/-- A place in a document, told by the elements around it. -/
inductive Place where
  | document
  | profiles
  | profile
  | block
  | dependency
  /-- In a block of properties of the document. -/
  | properties
  /-- In an element that is read for its text. -/
  | text
  /-- In an element that is passed over. -/
  | elsewhere
deriving DecidableEq

namespace Place

/-- The names of elements that are sought at a place, with the place in such an
element. -/
def sought : Place → List (String × Place)
  | document => [("properties", properties), ("dependencies", block), ("profiles", profiles)]
  | profiles => [("profile", profile)]
  | profile => [("dependencies", block)]
  | block => [("dependency", dependency)]
  | dependency => [("groupId", text), ("artifactId", text), ("version", text)]
  | properties | text | elsewhere => []

/-- The place in an element with the name. Every element of a block of properties
is a property, and all text in a property is its own. -/
def inside (place : Place) (name : String) : Place :=
  match place with
  | properties | text => text
  | place => (place.sought.lookup name).getD elsewhere

end Place

/-- An edit of what stands at a place. -/
inductive Edit : Place → List Node → List Node → Prop
  /-- An element is moved to another namespace. -/
  | respace {place : Place} (before : List Node) (ns ns' name : String)
      (children after : List Node) :
      Edit place (before ++ .element ns name children :: after)
        (before ++ .element ns' name children :: after)
  /-- A part is put in that is not sought. -/
  | insert {place : Place} (searched : place.sought ≠ []) (before : List Node) {node : Node}
      (unsought : ∀ entry ∈ place.sought, ¬ node.IsNamed entry.1) (after : List Node) :
      Edit place (before ++ after) (before ++ node :: after)
  /-- Parts change places; elements with the same name keep their order. -/
  | reorder {place : Place} (searched : place.sought ≠ []) {content content' : List Node}
      (perm : content.Perm content')
      (kept : ∀ name, allNamed name content' = allNamed name content) : Edit place content content'
  /-- Anything becomes of what is passed over. -/
  | replace (content content' : List Node) : Edit .elsewhere content content'
  /-- What is in an element is edited as it may be there. -/
  | within {place : Place} (before : List Node) (ns name : String) (after : List Node)
      {children children' : List Node} (edit : Edit (place.inside name) children children') :
      Edit place (before ++ .element ns name children :: after)
        (before ++ .element ns name children' :: after)

/-- What is read of the one content at a place is what is read of the other,
whatever the properties are. -/
def ReadAlike : Place → List Node → List Node → Prop
  | .document, a, b => properties a = properties b ∧
      ∀ table, (blocks a).map (readBlock table) = (blocks b).map (readBlock table)
  | .profiles, a, b => ∀ table,
      ((childrenNamed "profile" a).filterMap (firstNamed? "dependencies")).map (readBlock table) =
      ((childrenNamed "profile" b).filterMap (firstNamed? "dependencies")).map (readBlock table)
  | .profile, a, b => ∀ table,
      (firstNamed? "dependencies" a).map (readBlock table) =
      (firstNamed? "dependencies" b).map (readBlock table)
  | .block, a, b => ∀ table, readBlock table a = readBlock table b
  | .dependency, a, b => ∀ table, readDependency table a = readDependency table b
  | .properties, a, b =>
      (namedElements a).map (fun entry => (entry.1, trimmedText entry.2)) =
      (namedElements b).map fun entry => (entry.1, trimmedText entry.2)
  | .text, a, b => textOf a = textOf b
  | .elsewhere, _, _ => True

variable {place : Place} {content content' : List Node}

theorem ReadAlike.refl (place : Place) (content : List Node) : ReadAlike place content content := by
  cases place <;> simp [ReadAlike]

theorem ReadAlike.trans {content'' : List Node} (first : ReadAlike place content content')
    (second : ReadAlike place content' content'') : ReadAlike place content content'' := by
  cases place with
  | document => exact ⟨first.1.trans second.1, fun table => (first.2 table).trans (second.2 table)⟩
  | properties | text => exact Eq.trans first second
  | elsewhere => trivial
  | _ => exact fun table => (first table).trans (second table)

/-! ## What is read where -/

theorem map_childrenNamed_eq {α : Type} {read : List Node → α} {name : String}
    (alike : List.Forall₂ (fun a b => read a = read b) (childrenNamed name content)
      (childrenNamed name content')) :
    (childrenNamed name content).map read = (childrenNamed name content').map read := by
  rw [← List.forall₂_eq_eq_eq, List.forall₂_map_left_iff, List.forall₂_map_right_iff]
  exact alike

theorem map_firstNamed?_eq {α : Type} {read : List Node → α} {name : String}
    (alike : List.Forall₂ (fun a b => read a = read b) (childrenNamed name content)
      (childrenNamed name content')) :
    (firstNamed? name content).map read = (firstNamed? name content').map read := by
  rw [firstNamed?, firstNamed?, ← List.head?_map, ← List.head?_map, map_childrenNamed_eq alike]

theorem readDependency_congr {table : Table String String}
    (alike : ∀ name ∈ ["groupId", "artifactId", "version"],
      (firstNamed? name content).map textOf = (firstNamed? name content').map textOf) :
    readDependency table content = readDependency table content' := by
  have same : ∀ name ∈ ["groupId", "artifactId", "version"],
      (firstNamed? name content).map trimmedText = (firstNamed? name content').map trimmedText := by
    intro name mem
    have trimmed := congrArg (Option.map Text.trim) (alike name mem)
    rwa [Option.map_map, Option.map_map] at trimmed
  have group := same "groupId" (by simp)
  have artifact := same "artifactId" (by simp)
  have version := same "version" (by simp)
  cases hasGroup : firstNamed? "groupId" content <;>
    cases hasGroup' : firstNamed? "groupId" content' <;>
    cases hasArtifact : firstNamed? "artifactId" content <;>
    cases hasArtifact' : firstNamed? "artifactId" content' <;>
    simp_all [readDependency]

theorem properties_eq (content : List Node) : properties content =
    ((firstNamed? "properties" content).map fun block =>
      (namedElements block).map fun entry => (entry.1, trimmedText entry.2)).elim ∅
        Table.ofList := by
  unfold properties
  cases firstNamed? "properties" content <;> rfl

/-- The blocks of a document are its own and those of its profiles. -/
theorem map_blocks {α : Type} (read : List Node → α) (content : List Node) :
    (blocks content).map read = ((firstNamed? "dependencies" content).map read).toList ++
      ((firstNamed? "profiles" content).map fun profiles =>
        ((childrenNamed "profile" profiles).filterMap (firstNamed? "dependencies")).map
          read).getD [] := by
  unfold blocks
  cases own : firstNamed? "dependencies" content <;>
    cases listed : firstNamed? "profiles" content <;>
    simp [own]

/-- What is sought at a place decides on what is read there. -/
theorem readAlike_of_sought (searched : place.sought ≠ [])
    (alike : ∀ name inner, (name, inner) ∈ place.sought →
      List.Forall₂ (ReadAlike inner) (childrenNamed name content) (childrenNamed name content')) :
    ReadAlike place content content' := by
  cases place with
  | document =>
    have defined := alike "properties" .properties (by simp [Place.sought])
    have own := alike "dependencies" .block (by simp [Place.sought])
    have listed := alike "profiles" .profiles (by simp [Place.sought])
    constructor
    · rw [properties_eq, properties_eq, map_firstNamed?_eq defined]
    · intro table
      rw [map_blocks, map_blocks, map_firstNamed?_eq (own.imp fun _ _ same => same table),
        map_firstNamed?_eq (listed.imp fun _ _ same => same table)]
  | profiles =>
    intro table
    have each := map_childrenNamed_eq
      ((alike "profile" .profile (by simp [Place.sought])).imp fun _ _ same => same table)
    have found : ∀ lists : List (List Node),
        (lists.filterMap (firstNamed? "dependencies")).map (readBlock table) =
          (lists.map fun list =>
            (firstNamed? "dependencies" list).map (readBlock table)).filterMap id := by
      intro lists
      rw [List.map_filterMap, List.filterMap_map]
      rfl
    rw [found, found, each]
  | profile =>
    intro table
    exact map_firstNamed?_eq
      ((alike "dependencies" .block (by simp [Place.sought])).imp fun _ _ same => same table)
  | block =>
    intro table
    exact mapM_eq_of_map_eq (map_childrenNamed_eq
      ((alike "dependency" .dependency (by simp [Place.sought])).imp fun _ _ same => same table))
  | dependency =>
    intro table
    refine readDependency_congr fun name mem => map_firstNamed?_eq ?_
    exact alike name .text (by simpa [Place.sought] using mem)
  | properties | text | elsewhere => exact absurd rfl searched

/-! ## Edits -/

theorem Place.inside_of_mem {name : String} {inner : Place} (mem : (name, inner) ∈ place.sought) :
    place.inside name = inner := by
  cases place with
  | document | dependency =>
    simp only [sought, List.mem_cons, List.not_mem_nil, or_false, Prod.mk.injEq] at mem
    obtain ⟨rfl, rfl⟩ | ⟨rfl, rfl⟩ | ⟨rfl, rfl⟩ := mem <;> rfl
  | profiles | profile | block =>
    simp only [sought, List.mem_singleton, Prod.mk.injEq] at mem
    obtain ⟨rfl, rfl⟩ := mem
    rfl
  | properties | text | elsewhere => cases mem

/-- What an element is edited into is read like it, if its content is. -/
theorem readAlike_element (before : List Node) (ns ns' name : String) (after : List Node)
    {children children' : List Node} (alike : ReadAlike (place.inside name) children children') :
    ReadAlike place (before ++ .element ns name children :: after)
      (before ++ .element ns' name children' :: after) := by
  by_cases searched : place.sought = []
  · cases place with
    | properties =>
      have text : trimmedText children = trimmedText children' := congrArg Text.trim alike
      simp [ReadAlike, namedElements, text]
    | text =>
      have text : textOf children = textOf children' := alike
      simp only [ReadAlike, textOf_append, textOf, allText, text]
    | elsewhere => trivial
    | document | profiles | profile | block | dependency => cases searched
  · refine readAlike_of_sought searched fun found inner mem => ?_
    have same : ∀ lists : List (List Node), List.Forall₂ (ReadAlike inner) lists lists :=
      fun lists => List.forall₂_same.2 fun list _ => .refl inner list
    rw [childrenNamed_append, childrenNamed_append]
    refine List.rel_append (same _) ?_
    by_cases named : found = name
    · subst named
      rw [Place.inside_of_mem mem] at alike
      rw [childrenNamed_named, childrenNamed_named]
      exact .cons alike (same _)
    · have unnamed : ∀ ns children, ¬ (Node.element ns name children).IsNamed found := by
        rintro ns children ⟨ns', children', as⟩
        cases as
        exact named rfl
      rw [childrenNamed_other (unnamed ns children), childrenNamed_other (unnamed ns' children')]
      exact same _

theorem readAlike_of_childrenNamed_eq (searched : place.sought ≠ [])
    (same : ∀ name inner, (name, inner) ∈ place.sought →
      childrenNamed name content' = childrenNamed name content) :
    ReadAlike place content content' := by
  refine readAlike_of_sought searched fun name inner mem => ?_
  rw [same name inner mem]
  exact List.forall₂_same.2 fun list _ => .refl inner list

/-- An element may be moved behind others that do not have its name. -/
theorem Edit.moved (searched : place.sought ≠ []) (before : List Node) (ns name : String)
    (children : List Node) (between : List Node) (lacks : Lacks name between) (after : List Node) :
    Edit place (before ++ .element ns name children :: (between ++ after))
      (before ++ (between ++ .element ns name children :: after)) := by
  refine .reorder searched (.append_left before List.perm_middle.symm) fun found => ?_
  by_cases named : found = name
  · subst named
    have without := allNamed_of_lacks lacks
    simp only [allNamed] at without
    simp [allNamed, List.filter_cons, without]
  · have other : ¬ (Node.element ns name children).name? = some found :=
      fun same => named (Option.some.inj same).symm
    simp [allNamed, other]

/-- No edit shows in what is read at its place. -/
theorem Edit.readAlike (edit : Edit place content content') : ReadAlike place content content' := by
  induction edit with
  | respace before ns ns' name children after =>
    exact readAlike_element before ns ns' name after (.refl _ children)
  | insert searched before unsought after =>
    refine readAlike_of_childrenNamed_eq searched fun name inner mem => ?_
    rw [childrenNamed_append, childrenNamed_append, childrenNamed_other (unsought _ mem)]
  | reorder searched _ kept =>
    refine readAlike_of_childrenNamed_eq searched fun name inner _ => ?_
    rw [← childrenNamed_allNamed, kept, childrenNamed_allNamed]
  | replace => trivial
  | within before ns name after _ alike =>
    exact readAlike_element before ns ns name after alike

/-- Nor do any number of edits, one after the other. -/
theorem readAlike_of_edits (edits : Relation.ReflTransGen (Edit place) content content') :
    ReadAlike place content content' := by
  induction edits with
  | refl => exact .refl place content
  | tail _ edit ih => exact ih.trans edit.readAlike

theorem dependencySet_of_readAlike (alike : ReadAlike .document content content') :
    dependencySet content' = dependencySet content := by
  obtain ⟨defined, each⟩ := alike
  rw [dependencySet, dependencySet, ← defined, mapM_eq_of_map_eq (each (properties content))]

/-- The one document comes from the other by edits that do not show. -/
def Rearranged (root root' : Node) : Prop :=
  ∃ ns ns' name name' content content', root = .element ns name content ∧
    root' = .element ns' name' content' ∧
    Relation.ReflTransGen (Edit .document) content content'

theorem Rearranged.dependencySet_eq {root root' : Node} (rearranged : Rearranged root root') :
    dependencySet (rootContent root') = dependencySet (rootContent root) := by
  obtain ⟨ns, ns', name, name', content, content', rfl, rfl, edits⟩ := rearranged
  exact dependencySet_of_readAlike (readAlike_of_edits edits)

/-- **A build file is read by local names and by the order under each name.** At
the outermost element, at lists of profiles, at profiles, at blocks and at
dependencies, parts may be put in and may change places, and namespaces may be
any: the dependencies, or the failure, stay the same. In particular a block of
properties may stand behind the dependencies that refer to it.

An element in a property, or in the text that tells a group, an artifact or a
version, is none of these whatever its name is. All text in it counts. -/
theorem dependencySet_rearranged {root root' : Node} (rearranged : Rearranged root root') :
    dependencySet (rootContent root') = dependencySet (rootContent root) ∧
    (∀ octets octets', Xml.parse octets = .ok root → Xml.parse octets' = .ok root' →
      readDependencies octets' = readDependencies octets) ∧
    ∀ before ns block between after, Lacks "properties" between →
      dependencySet (before ++ (between ++ .element ns "properties" block :: after)) =
        dependencySet (before ++ .element ns "properties" block :: (between ++ after)) := by
  refine ⟨rearranged.dependencySet_eq, ?_, ?_⟩
  · intro octets octets' parsed parsed'
    rw [readDependencies_eq parsed, readDependencies_eq parsed', rearranged.dependencySet_eq]
  · intro before ns block between after lacks
    have searched : Place.document.sought ≠ [] := by decide
    exact dependencySet_of_readAlike
      (Edit.moved searched before ns "properties" block between lacks after).readAlike

/-- The elements that tell a product. -/
def productElements (group artifact : String) : List Node :=
  [.element "u" "groupId" [.text group], .element "u" "artifactId" [.text artifact]]

/-- A block whose dependency has no version. -/
def unversionedBlock : Node := .element "u" "dependencies" [
  .element "u" "dependency" (productElements "h" "b")]

/-- A build file with its properties first. -/
def propertiesFirst : Node := .element "u" "p" [
  .element "u" "properties" [.element "u" "v" [.text "1"]],
  .element "u" "dependencies" [.element "u" "dependency"
    (.element "u" "version" [.text "$\x7bv\x7d"] :: productElements "g" "a")],
  .element "u" "profiles" [.element "u" "profile" [unversionedBlock]]]

/-- It has its properties last, one of them in another namespace, its first
dependency ends with the version, and its profile is named. -/
def propertiesLast : Node := .element "" "p" [
  .element "u" "dependencies" [.element "u" "dependency"
    (productElements "g" "a" ++ [.element "u" "version" [.text "$\x7bv\x7d"]])],
  .element "u" "profiles" [.element "u" "profile" [.element "w" "id" [], unversionedBlock]],
  .element "u" "properties" [.element "" "v" [.text "1"]]]

/-- The version is still the value of the property. -/
theorem dependencySet_rearranged_propertiesLast : Rearranged propertiesFirst propertiesLast ∧
    dependencySet (rootContent propertiesLast) =
      .ok [[⟨"mvn", "g:a", [.pinned (some "1")], by decide⟩],
        [⟨"mvn", "h:b", [.pinned (some "*")], by decide⟩]] := by
  have versionLast : Edit .dependency
      (.element "u" "version" [.text "$\x7bv\x7d"] :: productElements "g" "a")
      (productElements "g" "a" ++ [.element "u" "version" [.text "$\x7bv\x7d"]]) :=
    .moved (by decide) [] "u" "version" _ (productElements "g" "a")
      (childrenNamed_eq_nil_iff.1 rfl) []
  have named : Edit .profile [unversionedBlock] [.element "w" "id" [], unversionedBlock] := by
    refine .insert (by decide) [] (fun entry mem => ?_) [unversionedBlock]
    obtain rfl := List.mem_singleton.1 mem
    rintro ⟨ns, children, same⟩
    simp at same
  have respaced : Edit .properties [.element "u" "v" [.text "1"]] [.element "" "v" [.text "1"]] :=
    .respace [] "u" "" "v" [.text "1"] []
  have rearranged : Rearranged propertiesFirst propertiesLast := by
    refine ⟨_, _, _, _, _, _, rfl, rfl, ?_⟩
    have last : Edit .document _ _ := .moved (by decide) [] "u" "properties"
      [.element "u" "v" [.text "1"]] [.element "u" "dependencies" [.element "u" "dependency"
        (.element "u" "version" [.text "$\x7bv\x7d"] :: productElements "g" "a")],
        .element "u" "profiles" [.element "u" "profile" [unversionedBlock]]]
      (childrenNamed_eq_nil_iff.1 rfl) []
    refine .head last ?_
    refine .head (.within [] "u" "dependencies" _ (.within [] "u" "dependency" [] versionLast)) ?_
    refine .head (.within [_] "u" "profiles" _ (.within [] "u" "profile" [] named)) ?_
    exact .single (.within [_, _] "u" "properties" [] respaced)
  refine ⟨rearranged, ?_⟩
  rw [(dependencySet_rearranged rearranged).1]
  exact toOption_eq_some_iff.1 (by decide +kernel)

end CallGraph.Maven.Pom
