import CallGraph.Proofs.Maven.Declared
import CallGraph.Proofs.Xml.Names

/-! Properties in versions. A reference is a mark, the name of a property and a
closing brace. The reader drops the last character of a text that begins with the
mark and looks up the rest. Because properties have the names of elements, and no
such name has a brace in it, this comes to the same as looking for a reference
wherever there is a brace in the text. Where there is none, a text that refers to
nothing can have the value of a property. -/
namespace CallGraph.Maven.Pom
open Listing
open Xml (Node IsName)
open Xml.Node

/-- The text is the reference to the property, and nothing else. -/
def Refers (text name : String) : Prop :=
  text.toList = referenceMark ++ name.toList ++ ['\x7d']

/-- What is recorded for the text of a version. -/
structure Recorded (content : List Node) (text : String) (bound : Option String) : Prop where
  literal : ¬ referenceMark <+: text.toList → bound = some text
  /-- With a brace in the text, it is the value of a property that the text refers
  to, if there is one. -/
  closed : referenceMark <+: text.toList → '\x7d' ∈ text.toList → ∀ value,
    bound = some value ↔ ∃ name, Refers text name ∧ Defines content name value
  /-- With no brace in the text, whatever stands at its end is taken for one. -/
  unclosed : referenceMark <+: text.toList → '\x7d' ∉ text.toList → ∀ value,
    bound = some value ↔ ∃ name last, text.toList = referenceMark ++ name.toList ++ [last] ∧
      Defines content name value

/-- The dependency has one range, from the version of the element to itself. -/
def Versioned (content element : List Node) (dependency : Dependency) : Prop :=
  ∃ written bound, Found "version" element written ∧ dependency.constraints = [⟨bound, bound⟩] ∧
    match written with
    | none => bound = some wildcardVersion
    | some inner => Recorded content (trimmedText inner) bound

variable {content : List Node} {name text value : String}

/-- Properties are named by elements. -/
theorem Defines.isName (named : ∀ node ∈ content, node.Named) (defined : Defines content name value) :
    IsName name.toList := by
  obtain ⟨_, ⟨_, _, _, rfl, -⟩, _, _, _, _, rfl, -, -⟩ := defined
  have block := named _ (List.mem_append_right _ List.mem_cons_self)
  cases block with
  | element _ _ inside =>
    have property := inside _ (List.mem_append_right _ List.mem_cons_self)
    cases property with
    | element _ isName _ => exact isName

/-- A text that begins with the mark has the value of the property whose name stands
between the mark and the last character. -/
theorem StandsFor.eq_some_iff (named : ∀ node ∈ content, node.Named) {bound : Option String}
    (stands : StandsFor content (some text) bound) (marked : referenceMark <+: text.toList) :
    bound = some value ↔ ∃ name last, text.toList = referenceMark ++ name.toList ++ [last] ∧
      Defines content name value := by
  obtain ⟨reference, whole⟩ := marked
  have stated : StandsFor content (some text) (some value) ↔
      Defines content (String.ofList reference.dropLast) value := by
    constructor
    · rintro (_ | plain | ⟨refers, defined⟩)
      · exact absurd ⟨reference, whole⟩ plain
      · obtain rfl := List.append_cancel_left (whole.trans refers)
        exact defined
    · exact .property whole.symm
  have decided : bound = some value ↔ StandsFor content (some text) (some value) := by
    rw [← resolveVersion_eq_iff] at stands ⊢
    rw [stands]
  rw [decided, stated]
  constructor
  · intro defined
    have filled : reference ≠ [] := by
      rintro rfl
      exact (defined.isName named).ne_nil rfl
    refine ⟨_, reference.getLast filled, ?_, defined⟩
    rw [String.toList_ofList, List.append_assoc, List.dropLast_append_getLast, whole]
  · rintro ⟨name, last, same, defined⟩
    rw [← whole, List.append_assoc] at same
    obtain rfl := List.append_cancel_left same
    rwa [List.dropLast_concat, String.ofList_toList]

theorem StandsFor.recorded (named : ∀ node ∈ content, node.Named) {bound : Option String}
    (stands : StandsFor content (some text) bound) : Recorded content text bound where
  literal plain := by
    cases stands with
    | literal => rfl
    | property refers _ => exact absurd ⟨_, refers.symm⟩ plain
    | unknown refers _ => exact absurd ⟨_, refers.symm⟩ plain
  closed marked brace value := by
    rw [stands.eq_some_iff named marked]
    constructor
    · rintro ⟨name, last, same, defined⟩
      -- The brace is neither in the mark nor in the name.
      obtain rfl : last = '\x7d' := by
        rw [same, List.mem_append, List.mem_append, List.mem_singleton] at brace
        rcases brace with (inMark | inName) | atEnd
        · exact absurd inMark (by decide)
        · exact absurd inName (defined.isName named).brace_not_mem
        · exact atEnd.symm
      exact ⟨name, same, defined⟩
    · rintro ⟨name, refers, defined⟩
      exact ⟨name, _, refers, defined⟩
  unclosed marked _ value := stands.eq_some_iff named marked

theorem Declares.versioned (named : ∀ node ∈ content, node.Named) {element : List Node}
    {dependency : Dependency} (declares : Declares content element dependency) :
    Versioned content element dependency := by
  obtain ⟨written, bound, found, stands, pinned⟩ := declares.version
  refine ⟨written, bound, found, pinned, ?_⟩
  cases written with
  | none =>
    cases stands
    rfl
  | some inner => exact stands.recorded named

theorem named_rootContent {root : Node} (named : root.Named) :
    ∀ node ∈ rootContent root, node.Named := by
  cases named with
  | text _ => simp [rootContent]
  | element _ _ inside => exact inside

/-- **References and what is taken for one.** Of a document that is read, each
`dependency` element of the blocks that count has its own dependency in the result,
block by block and in order. The version recorded for it is the text as it stands
if the text does not begin with the mark. If it does and has a closing brace, the
version is that of the property the text refers to, and there is none if the text
is more than a reference or the property is unknown. If there is no closing brace,
the version is that of the property named between the mark and the last character,
although the text does not refer to it. -/
theorem readDependencies_references {octets : Octets} {root : Node} {set : DependencySet}
    (parsed : Xml.parse octets = .ok root) (read : readDependencies octets = .ok set) :
    ∃ blocks elements, Considered (rootContent root) blocks ∧
      List.Forall₂ (Each "dependency") blocks elements ∧
      List.Forall₂ (List.Forall₂ (Versioned (rootContent root)))
        (elements.filter fun each => !each.isEmpty) set := by
  rw [readDependencies_eq parsed, dependencySet_eq_ok_iff] at read
  obtain ⟨blocks, entries, considered, related, rfl⟩ := read
  have named := named_rootContent (Xml.named_of_parse parsed)
  refine ⟨blocks, _, considered, List.forall₂_map_right_iff.2
    (List.forall₂_same.2 fun block _ => childrenNamed_eq_iff.1 rfl), ?_⟩
  clear considered
  induction related with
  | nil => exact .nil
  | @cons block entry blocks entries entered _ ih =>
    rw [List.map_cons]
    cases entry with
    | none =>
      rw [childrenNamed_eq_nil_iff.2 entered]
      exact ih
    | some listed =>
      obtain ⟨some, elements, each, declared⟩ := entered
      rw [childrenNamed_eq_iff.2 each, List.reduceOption_cons_of_some]
      have filled : elements ≠ [] := by
        rintro rfl
        cases declared
        exact some rfl
      rw [List.filter_cons_of_pos (by simpa using filled)]
      exact .cons (declared.imp fun _ _ declares => declares.versioned named) ih

/-- A build file with a property, and with versions that refer to it, refer to
another one, go on after the brace, end before it, and are text as it stands. -/
def manyReferences : Octets := Text.encodeUtf8 <| [
  "<p>", "<properties><v>1</v>", "</properties>", "<dependencies>",
  "<dependency>", "<groupId>g</groupId>", "<artifactId>a", "</artifactId>",
  "<version> $\x7bv\x7d ", "</version>", "</dependency>",
  "<dependency>", "<groupId>g</groupId>", "<artifactId>b", "</artifactId>",
  "<version>$\x7bw\x7d", "</version>", "</dependency>",
  "<dependency>", "<groupId>g</groupId>", "<artifactId>c", "</artifactId>",
  "<version>$\x7bv\x7d1", "</version>", "</dependency>",
  "<dependency>", "<groupId>g</groupId>", "<artifactId>d", "</artifactId>",
  "<version>$\x7bvx", "</version>", "</dependency>",
  "<dependency>", "<groupId>g</groupId>", "<artifactId>e", "</artifactId>",
  "<version>v$\x7bv\x7d", "</version>", "</dependency>",
  "</dependencies></p>"].flatMap String.toList

/-- What is recorded for the versions of `manyReferences`, in their order. -/
def manyRecorded : DependencySet := [[
  ⟨"mvn", "g:a", [.pinned (some "1")], by decide⟩, ⟨"mvn", "g:b", [.pinned none], by decide⟩,
  ⟨"mvn", "g:c", [.pinned none], by decide⟩, ⟨"mvn", "g:d", [.pinned (some "1")], by decide⟩,
  ⟨"mvn", "g:e", [.pinned (some "v$\x7bv\x7d")], by decide⟩]]

theorem readDependencies_references_forms : ∃ root, Xml.parse manyReferences = .ok root ∧
    ∃ blocks elements, Considered (rootContent root) blocks ∧
      List.Forall₂ (Each "dependency") blocks elements ∧
      List.Forall₂ (List.Forall₂ (Versioned (rootContent root)))
        (elements.filter fun each => !each.isEmpty) manyRecorded := by
  have read := toOption_eq_some_iff.1 (show (readDependencies manyReferences).toOption =
    some manyRecorded by decide +kernel)
  cases parsed : Xml.parse manyReferences with
  | error defect =>
    rw [readDependencies, parse, parsed] at read
    cases read
  | ok root => exact ⟨root, rfl, readDependencies_references parsed read⟩

/-- A build file with a version that begins as a reference and has no brace at its
end. -/
def unclosedReference : Octets := Text.encodeUtf8 <| [
  "<project>", "<properties><v>1</v>", "</properties>", "<dependencies>", "<dependency>",
  "<groupId>g</groupId>", "<artifactId>a", "</artifactId>", "<version>$\x7bvx", "</version>",
  "</dependency>", "</dependencies>", "</project>"].flatMap String.toList

/-- The version refers to no property, and it has the value of one. -/
theorem readDependencies_unclosed : ∃ root block element written,
    Xml.parse unclosedReference = .ok root ∧
    First "dependencies" (rootContent root) block ∧ First "dependency" block element ∧
    First "version" element written ∧ referenceMark <+: (trimmedText written).toList ∧
    (∀ name, ¬ Refers (trimmedText written) name) ∧ Defines (rootContent root) "v" "1" ∧
    readDependencies unclosedReference =
      .ok [[⟨"mvn", "g:a", [.pinned (some "1")], by decide⟩]] := by
  have seen : (Xml.parse unclosedReference).toOption.map (fun root =>
      ((((Node.firstNamed? "dependencies" (rootContent root)).bind
        (Node.firstNamed? "dependency")).bind (Node.firstNamed? "version")).map trimmedText,
        (properties (rootContent root)).get? "v")) =
      some (some "$\x7bvx", some "1") := by decide +kernel
  obtain ⟨root, parsed, seen⟩ := Option.map_eq_some_iff.1 seen
  obtain ⟨seen, valued⟩ := Prod.mk.inj seen
  obtain ⟨written, version, text⟩ := Option.map_eq_some_iff.1 seen
  obtain ⟨element, dependency, version⟩ := Option.bind_eq_some_iff.1 version
  obtain ⟨block, dependencies, dependency⟩ := Option.bind_eq_some_iff.1 dependency
  refine ⟨root, block, element, written, toOption_eq_some_iff.1 parsed,
    firstNamed?_eq_some_iff.1 dependencies, firstNamed?_eq_some_iff.1 dependency,
    firstNamed?_eq_some_iff.1 version, by rw [text]; decide, ?_,
    get?_properties_eq_some_iff.1 valued, toOption_eq_some_iff.1 (by decide +kernel)⟩
  intro name refers
  have ends := congrArg List.getLast? refers
  rw [text, List.getLast?_concat] at ends
  exact absurd ends (by decide)

end CallGraph.Maven.Pom
