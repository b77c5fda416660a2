import CallGraph.Maven.Repository
import CallGraph.Proofs.Listing
import CallGraph.Proofs.Table
import CallGraph.Proofs.Xml.Children
import Mathlib.Data.List.ReduceOption

/-! The dependencies that a build file declares. `Declared` describes them by
the document alone: which blocks count and in which order, which of them are
left out, what each dependency is recorded as, and which of several values of a
property is the one. The reader agrees with that description on every document,
and refuses exactly the documents in which a dependency of a block that counts
does not say on what. -/
namespace CallGraph.Maven.Pom
open Listing
open Xml (Node)
open Xml.Node

/-- The property has the value: it is that of the last element with its name in
the first block of properties of the outermost element. -/
def Defines (content : List Node) (name value : String) : Prop :=
  ∃ block, First "properties" content block ∧
    ∃ before ns children after, block = before ++ .element ns name children :: after ∧
      Lacks name after ∧ value = trimmedText children

/-- The version that a text stands for, or that stands where there is no text.
Unknown properties stand for no version at all. -/
inductive StandsFor (content : List Node) : Option String → Option String → Prop
  | unstated : StandsFor content none (some wildcardVersion)
  | literal {text : String} (plain : ¬ referenceMark <+: text.toList) :
      StandsFor content (some text) (some text)
  | property {text value : String} {reference : List Char}
      (refers : text.toList = referenceMark ++ reference)
      (defined : Defines content (String.ofList reference.dropLast) value) :
      StandsFor content (some text) (some value)
  | unknown {text : String} {reference : List Char}
      (refers : text.toList = referenceMark ++ reference)
      (undefined : ∀ value, ¬ Defines content (String.ofList reference.dropLast) value) :
      StandsFor content (some text) none

/-- The element does not say on what its artifact depends. -/
def Incomplete (element : List Node) : Prop :=
  Lacks "groupId" element ∨ Lacks "artifactId" element

/-- What an element of a block is recorded as. -/
structure Declares (content element : List Node) (dependency : Dependency) : Prop where
  forge : dependency.forge = forgeName
  product : ∃ group artifact, First "groupId" element group ∧ First "artifactId" element artifact ∧
    dependency.product = trimmedText group ++ ":" ++ trimmedText artifact
  /-- There is one range, and it has the same version at both ends. -/
  version : ∃ written version, Found "version" element written ∧
    StandsFor content (written.map trimmedText) version ∧
    dependency.constraints = [⟨version, version⟩]

/-- The profiles of a document, which stand in its first list of profiles. -/
inductive Profiles (content : List Node) : List (List Node) → Prop
  | listed {list : List Node} {profiles : List (List Node)} (first : First "profiles" content list)
      (each : Each "profile" list profiles) : Profiles content profiles
  | unlisted (lacks : Lacks "profiles" content) : Profiles content []

/-- The blocks that count: the first one of the document itself, then the first
one of each profile. -/
def Considered (content : List Node) (blocks : List (List Node)) : Prop :=
  ∃ profiles found, Profiles content profiles ∧
    List.Forall₂ (Found "dependencies") (content :: profiles) found ∧ blocks = found.reduceOption

/-- What a block is recorded as: its dependencies in order, or nothing where it
has none. -/
def Entry (content block : List Node) : Option (List Dependency) → Prop
  | some listed => listed ≠ [] ∧ ∃ elements, Each "dependency" block elements ∧
      List.Forall₂ (Declares content) elements listed
  | none => Lacks "dependency" block

/-- What a document declares. -/
def Declared (content : List Node) (set : DependencySet) : Prop :=
  ∃ blocks entries, Considered content blocks ∧ List.Forall₂ (Entry content) blocks entries ∧
    set = entries.reduceOption

/-- Some block that counts has a dependency that does not say on what. -/
def HasIncomplete (content : List Node) : Prop :=
  ∃ blocks, Considered content blocks ∧ ∃ block ∈ blocks, ∃ elements,
    Each "dependency" block elements ∧ ∃ element ∈ elements, Incomplete element

variable {content element block : List Node}

/-! ## Properties and versions -/

theorem namedElements_split {before after : List (String × List Node)} {name : String}
    {children : List Node} (split : namedElements block = before ++ (name, children) :: after) :
    ∃ front ns back, block = front ++ .element ns name children :: back ∧
      namedElements back = after := by
  obtain ⟨front, rest, rfl, -, listed⟩ := List.filterMap_eq_append_iff.1 split
  obtain ⟨between, node, back, rfl, -, here, later⟩ := List.filterMap_eq_cons_iff.1 listed
  cases node with
  | text _ => cases here
  | element ns found inner =>
    obtain ⟨rfl, rfl⟩ := Prod.mk.inj (Option.some.inj here)
    exact ⟨front ++ between, ns, back, by rw [List.append_assoc], later⟩

theorem namedElements_element (ns name : String) (children : List Node) :
    namedElements (.element ns name children :: block) = (name, children) :: namedElements block :=
  rfl

theorem mem_namedElements {name : String} :
    name ∈ (namedElements block).map Prod.fst ↔ ¬ Lacks name block := by
  induction block with
  | nil => simp [namedElements, Lacks]
  | cons node block ih =>
    cases node with
    | text _ =>
      have unnamed : ¬ (Node.text ‹String›).IsNamed name := by
        rintro ⟨ns, children, same⟩
        cases same
      simpa [namedElements, Lacks, unnamed] using ih
    | element ns found children =>
      have named : (Node.element ns found children).IsNamed name ↔ name = found := by
        simp [IsNamed, eq_comm]
      simp only [Lacks, List.forall_mem_cons, named] at ih ⊢
      rw [namedElements_element, List.map_cons, List.mem_cons, ih]
      tauto

/-- The table of properties is what the document defines. -/
theorem get?_properties_eq_some_iff {name value : String} :
    (properties content).get? name = some value ↔ Defines content name value := by
  unfold properties
  cases found : Node.firstNamed? "properties" content with
  | none =>
    constructor
    · intro held
      cases held
    · rintro ⟨block, first, -⟩
      cases found.symm.trans (firstNamed?_eq_some_iff.2 first)
  | some block =>
    simp only [Table.get?_ofList_eq_some_iff]
    have first := firstNamed?_eq_some_iff.1 found
    constructor
    · rintro ⟨before, after, split, absent⟩
      obtain ⟨front, rest, listed, -, following⟩ := List.map_eq_append_iff.1 split
      obtain ⟨⟨_, children⟩, later, rfl, same, rfl⟩ := List.map_eq_cons_iff.1 following
      obtain ⟨rfl, rfl⟩ := Prod.mk.inj same
      obtain ⟨front, ns, back, rfl, rfl⟩ := namedElements_split listed
      refine ⟨_, first, front, ns, children, back, rfl, ?_, rfl⟩
      by_contra again
      exact absent (by simpa [List.map_map, Function.comp_def] using mem_namedElements.2 again)
    · rintro ⟨block', first', before, ns, children, after, rfl, last, rfl⟩
      obtain rfl := Option.some.inj (found.symm.trans (firstNamed?_eq_some_iff.2 first'))
      refine ⟨(namedElements before).map fun e => (e.1, trimmedText e.2),
        (namedElements after).map fun e => (e.1, trimmedText e.2), ?_, ?_⟩
      · simp [namedElements]
      · intro again
        rw [List.map_map] at again
        exact mem_namedElements.1 again last

theorem get?_properties_eq_none_iff {name : String} :
    (properties content).get? name = none ↔ ∀ value, ¬ Defines content name value := by
  simp only [← get?_properties_eq_some_iff, Option.eq_none_iff_forall_ne_some, ne_eq]

theorem resolveVersion_eq_iff {text? version : Option String} :
    resolveVersion (properties content) text? = version ↔ StandsFor content text? version := by
  cases text? with
  | none =>
    constructor
    · rintro rfl
      exact .unstated
    · rintro ⟨⟩
      rfl
  | some text =>
    cases marked : Text.afterStart? referenceMark text.toList with
    | none =>
      have plain : ¬ referenceMark <+: text.toList := by
        rintro ⟨reference, whole⟩
        rw [← whole, Text.afterStart?_append] at marked
        cases marked
      rw [resolveVersion, marked]
      constructor
      · rintro rfl
        exact .literal plain
      · rintro (_ | _ | ⟨refers, -⟩ | ⟨refers, -⟩)
        · rfl
        · exact absurd ⟨_, refers.symm⟩ plain
        · exact absurd ⟨_, refers.symm⟩ plain
    | some reference =>
      have refers := Text.eq_append_of_afterStart? marked
      -- The mark is followed by one reference only.
      have unique : ∀ {other}, text.toList = referenceMark ++ other → other = reference :=
        fun same => List.append_cancel_left (same.symm.trans refers)
      rw [resolveVersion, marked]
      constructor
      · intro looked
        cases version with
        | none => exact .unknown refers (get?_properties_eq_none_iff.1 looked)
        | some value => exact .property refers (get?_properties_eq_some_iff.1 looked)
      · rintro (_ | plain | ⟨refers', defined⟩ | ⟨refers', undefined⟩)
        · exact absurd ⟨reference, refers.symm⟩ plain
        · obtain rfl := unique refers'
          exact get?_properties_eq_some_iff.2 defined
        · obtain rfl := unique refers'
          exact get?_properties_eq_none_iff.2 undefined

/-! ## Dependencies and blocks -/

theorem readDependency_eq_ok_iff {dependency : Dependency} :
    readDependency (properties content) element = .ok dependency ↔
      Declares content element dependency := by
  constructor
  · intro read
    unfold readDependency at read
    split at read
    · next group artifact hasGroup hasArtifact =>
      obtain rfl := Except.ok.inj read
      exact ⟨rfl, ⟨group, artifact, firstNamed?_eq_some_iff.1 hasGroup,
        firstNamed?_eq_some_iff.1 hasArtifact, rfl⟩,
        ⟨_, _, firstNamed?_eq_iff.1 rfl, resolveVersion_eq_iff.1 rfl, rfl⟩⟩
    · cases read
  · rintro ⟨forge, ⟨group, artifact, hasGroup, hasArtifact, product⟩,
      ⟨written, version, found, stands, pinned⟩⟩
    obtain ⟨_, _, constraints, _⟩ := dependency
    dsimp only at forge product pinned
    subst forge product pinned
    rw [← firstNamed?_eq_iff.2 found] at stands
    simp only [readDependency, firstNamed?_eq_some_iff.2 hasGroup,
      firstNamed?_eq_some_iff.2 hasArtifact, resolveVersion_eq_iff.2 stands, Constraint.pinned]

theorem readDependency_eq_error_iff {table : Table String String} {defect : Defect} :
    readDependency table element = .error defect ↔
      defect = .incompleteDependency ∧ Incomplete element := by
  rw [Incomplete, ← firstNamed?_eq_none_iff, ← firstNamed?_eq_none_iff, readDependency]
  cases Node.firstNamed? "groupId" element with
  | none => simp [eq_comm]
  | some group => cases Node.firstNamed? "artifactId" element <;> simp [eq_comm]

/-- A list of dependencies, unless it has none. -/
def listed? (listed : List Dependency) : Option (List Dependency) :=
  if listed = [] then none else some listed

theorem reduceOption_listed? (lists : List (List Dependency)) :
    (lists.map listed?).reduceOption = lists.filter fun listed => !listed.isEmpty := by
  induction lists with
  | nil => rfl
  | cons listed lists ih =>
    by_cases none : listed = []
    · simp [listed?, none, ih]
    · simp [listed?, none, ih]

theorem entry_iff {entry : Option (List Dependency)} : Entry content block entry ↔
    ∃ listed, readBlock (properties content) block = .ok listed ∧ listed? listed = entry := by
  have read : ∀ listed, readBlock (properties content) block = .ok listed ↔
      ∃ elements, Each "dependency" block elements ∧
        List.Forall₂ (Declares content) elements listed := by
    intro listed
    rw [readBlock, mapM_eq_ok]
    simp only [readDependency_eq_ok_iff]
    constructor
    · intro related
      exact ⟨_, childrenNamed_eq_iff.1 rfl, related⟩
    · rintro ⟨elements, each, related⟩
      rwa [childrenNamed_eq_iff.2 each]
  cases entry with
  | some listed =>
    rw [Entry, ← read]
    constructor
    · rintro ⟨some, done⟩
      exact ⟨listed, done, if_neg some⟩
    · rintro ⟨listed', done, kept⟩
      by_cases none : listed' = []
      · rw [listed?, if_pos none] at kept
        cases kept
      · rw [listed?, if_neg none] at kept
        obtain rfl := Option.some.inj kept
        exact ⟨none, done⟩
  | none =>
    constructor
    · intro lacks
      have nothing := childrenNamed_eq_nil_iff.2 lacks
      exact ⟨[], (read []).2 ⟨[], childrenNamed_eq_iff.1 nothing, .nil⟩, rfl⟩
    · rintro ⟨listed, done, left⟩
      obtain ⟨elements, each, related⟩ := (read listed).1 done
      by_cases none : listed = []
      · subst none
        cases related
        exact childrenNamed_eq_nil_iff.1 (childrenNamed_eq_iff.2 each)
      · rw [listed?, if_neg none] at left
        cases left

theorem exists_profiles (content : List Node) : ∃ profiles, Profiles content profiles := by
  cases listed : Node.firstNamed? "profiles" content with
  | none => exact ⟨[], .unlisted (firstNamed?_eq_none_iff.1 listed)⟩
  | some list => exact ⟨_, .listed (firstNamed?_eq_some_iff.1 listed) (childrenNamed_eq_iff.1 rfl)⟩

theorem Profiles.blocks_eq {profiles : List (List Node)} (listed : Profiles content profiles) :
    blocks content =
      ((content :: profiles).map (Node.firstNamed? "dependencies")).reduceOption := by
  have searched : blocks content =
      (content :: profiles).filterMap (Node.firstNamed? "dependencies") := by
    cases listed with
    | listed first each =>
      simp only [blocks, firstNamed?_eq_some_iff.2 first, childrenNamed_eq_iff.2 each]
    | unlisted lacks => simp only [blocks, firstNamed?_eq_none_iff.2 lacks]
  rw [searched, List.reduceOption, List.filterMap_map]
  rfl

theorem blocks_eq_iff {found : List (List Node)} :
    blocks content = found ↔ Considered content found := by
  constructor
  · rintro rfl
    obtain ⟨profiles, listed⟩ := exists_profiles content
    exact ⟨profiles, _, listed, map_firstNamed?_eq_iff.1 rfl, listed.blocks_eq⟩
  · rintro ⟨profiles, found, listed, related, rfl⟩
    rw [listed.blocks_eq, map_firstNamed?_eq_iff.2 related]

/-! ## Documents -/

theorem dependencySet_eq_ok_iff {set : DependencySet} :
    dependencySet content = .ok set ↔ Declared content set := by
  have each : ∀ {blocks : List (List Node)} {entries : List (Option (List Dependency))},
      List.Forall₂ (Entry content) blocks entries ↔
        ∃ lists, blocks.mapM (readBlock (properties content)) = .ok lists ∧
          lists.map listed? = entries := by
    intro blocks entries
    constructor
    · intro related
      induction related with
      | nil => exact ⟨[], rfl, rfl⟩
      | cons first _ ih =>
        obtain ⟨listed, read, rfl⟩ := entry_iff.1 first
        obtain ⟨lists, later, rfl⟩ := ih
        exact ⟨listed :: lists, mapM_eq_ok.2 (.cons read (mapM_eq_ok.1 later)), rfl⟩
    · rintro ⟨lists, read, rfl⟩
      rw [List.forall₂_map_right_iff]
      exact (mapM_eq_ok.1 read).imp fun _ listed done => entry_iff.2 ⟨listed, done, rfl⟩
  rw [dependencySet, bind_eq_ok]
  constructor
  · rintro ⟨lists, read, kept⟩
    obtain rfl := Except.ok.inj kept
    exact ⟨_, _, blocks_eq_iff.1 rfl, each.2 ⟨lists, read, rfl⟩, (reduceOption_listed? lists).symm⟩
  · rintro ⟨found, entries, considered, related, rfl⟩
    obtain ⟨lists, read, rfl⟩ := each.1 related
    refine ⟨lists, by rwa [blocks_eq_iff.2 considered], ?_⟩
    rw [reduceOption_listed?]
    rfl

theorem dependencySet_eq_error_iff {defect : Defect} : dependencySet content = .error defect ↔
    defect = .incompleteDependency ∧ HasIncomplete content := by
  have onlyElement : ∀ element defect', readDependency (properties content) element =
      .error defect' → defect' = .incompleteDependency :=
    fun _ _ failed => (readDependency_eq_error_iff.1 failed).1
  have onlyBlock : ∀ block defect', readBlock (properties content) block = .error defect' →
      defect' = .incompleteDependency := by
    intro block defect' failed
    obtain ⟨element, -, failed⟩ := exists_of_mapM_error failed
    exact onlyElement element defect' failed
  have reads : dependencySet content = .error defect ↔
      (blocks content).mapM (readBlock (properties content)) = .error defect := by
    rw [dependencySet, bind_eq_error]
    constructor
    · rintro (failed | ⟨lists, -, done⟩)
      · exact failed
      · cases done
    · exact .inl
  constructor
  · intro failed
    obtain ⟨block, mem, failed⟩ := exists_of_mapM_error (reads.1 failed)
    obtain ⟨element, inside, failed⟩ := exists_of_mapM_error failed
    obtain ⟨rfl, incomplete⟩ := readDependency_eq_error_iff.1 failed
    exact ⟨rfl, _, blocks_eq_iff.1 rfl, block, mem, _, childrenNamed_eq_iff.1 rfl, element, inside,
      incomplete⟩
  · rintro ⟨rfl, found, considered, block, mem, elements, each, element, inside, incomplete⟩
    have failed : readBlock (properties content) block = .error .incompleteDependency := by
      rw [readBlock, childrenNamed_eq_iff.2 each, mapM_eq_error_iff onlyElement]
      exact ⟨element, inside, readDependency_eq_error_iff.2 ⟨rfl, incomplete⟩⟩
    rw [reads, blocks_eq_iff.2 considered, mapM_eq_error_iff onlyBlock]
    exact ⟨block, mem, failed⟩

/-- The properties that count and the blocks that count decide on everything. -/
theorem dependencySet_congr {content' : List Node}
    (sameProperties : ∀ name value, Defines content name value ↔ Defines content' name value)
    (sameBlocks : ∀ found, Considered content found ↔ Considered content' found) :
    dependencySet content = dependencySet content' := by
  have stands : ∀ text? version, StandsFor content text? version →
      StandsFor content' text? version := by
    intro text? version stands
    cases stands with
    | unstated => exact .unstated
    | literal plain => exact .literal plain
    | property refers defined => exact .property refers ((sameProperties _ _).1 defined)
    | unknown refers undefined =>
      exact .unknown refers fun value defined => undefined value ((sameProperties _ _).2 defined)
  have declares : ∀ element dependency, Declares content element dependency →
      Declares content' element dependency := by
    rintro element dependency ⟨forge, product, written, version, found, said, pinned⟩
    exact ⟨forge, product, written, version, found, stands _ _ said, pinned⟩
  have entries : ∀ block entry, Entry content block entry → Entry content' block entry := by
    intro block entry recorded
    cases entry with
    | none => exact recorded
    | some listed =>
      obtain ⟨some, elements, each, related⟩ := recorded
      exact ⟨some, elements, each, related.imp fun _ _ => declares _ _⟩
  cases done : dependencySet content with
  | ok set =>
    obtain ⟨found, recorded, considered, related, kept⟩ := dependencySet_eq_ok_iff.1 done
    exact (dependencySet_eq_ok_iff.2 ⟨found, recorded, (sameBlocks _).1 considered,
      related.imp fun _ _ => entries _ _, kept⟩).symm
  | error defect =>
    obtain ⟨only, found, considered, incomplete⟩ := dependencySet_eq_error_iff.1 done
    exact (dependencySet_eq_error_iff.2 ⟨only, found, (sameBlocks _).1 considered,
      incomplete⟩).symm

theorem readDependencies_eq {octets : Octets} {root : Node} (parsed : Xml.parse octets = .ok root) :
    readDependencies octets = dependencySet (rootContent root) := by
  rw [readDependencies, parse, parsed]
  rfl

/-- **A build file yields what it declares.** Once the file is read as a
document, it is refused as malformed exactly if a block that counts has a
dependency that does not say on what; in every other case there is a result,
and it is what the document declares. Properties and blocks that do not count
change nothing. -/
theorem readDependencies_declared [Platform] {octets : Octets} {root : Node}
    (parsed : Xml.parse octets = .ok root) :
    ((∃ failure,
      (readDependencies octets).mapError (Defect.stop octets) = .error (.failure failure) ∧
      failure.kind = .inl .malformedInput) ↔ HasIncomplete (rootContent root)) ∧
    (¬ HasIncomplete (rootContent root) → ∃ set, readDependencies octets = .ok set) ∧
    (∀ set, readDependencies octets = .ok set ↔ Declared (rootContent root) set) ∧
    ∀ octets' root', Xml.parse octets' = .ok root' →
      (∀ name value, Defines (rootContent root) name value ↔
        Defines (rootContent root') name value) →
      (∀ found, Considered (rootContent root) found ↔ Considered (rootContent root') found) →
      readDependencies octets' = readDependencies octets := by
  rw [readDependencies_eq parsed]
  refine ⟨?_, ?_, fun set => dependencySet_eq_ok_iff, ?_⟩
  · constructor
    · rintro ⟨failure, failed, -⟩
      obtain ⟨defect, failed, -⟩ := mapError_eq_error.1 failed
      exact (dependencySet_eq_error_iff.1 failed).2
    · intro incomplete
      have failed := dependencySet_eq_error_iff.2 ⟨rfl, incomplete⟩
      exact ⟨.pomIncomplete, mapError_eq_error.2 ⟨_, failed, rfl⟩, rfl⟩
  · intro complete
    cases done : dependencySet (rootContent root) with
    | ok set => exact ⟨set, rfl⟩
    | error defect => exact absurd (dependencySet_eq_error_iff.1 done).2 complete
  · intro octets' root' parsed' sameProperties sameBlocks
    rw [readDependencies_eq parsed', dependencySet_congr sameProperties sameBlocks]

/-- A build file with two blocks of properties, one of them in a profile, a
property with two values, and a profile whose block is empty. -/
def manyBlocks : Octets := Text.encodeUtf8 <| [
  "<p xmlns='u'>", "<properties><v>1</v>", "<v> 2<b>.0</b> </v>", "</properties>",
  "<dependencies><x/>", "<dependency>", "<groupId>g</groupId>", "<artifactId> a",
  "</artifactId>", "<version>$\x7bv\x7d", "</version>", "</dependency>", "</dependencies>",
  "<profiles>", "<profile><properties>", "<w>3</w>", "</properties>", "<dependencies/>",
  "</profile><profile>", "<dependencies>", "<dependency>", "<artifactId>b", "</artifactId>",
  "<groupId>h</groupId>", "</dependency>", "<dependency>", "<groupId>h</groupId>",
  "<artifactId>c", "</artifactId>", "<version>$\x7bw\x7d", "</version>", "</dependency>",
  "</dependencies>", "</profile>", "</profiles></p>"].flatMap String.toList

section

open scoped Platform

/-- The version of the second dependency is left out, and that of the third one
refers to a property that the document as a whole does not define. -/
theorem readDependencies_declared_profiles : ∃ root, Xml.parse manyBlocks = .ok root ∧
    ¬ HasIncomplete (rootContent root) ∧
    Declared (rootContent root) [[⟨"mvn", "g:a", [.pinned (some "2.0")], by decide⟩],
      [⟨"mvn", "h:b", [.pinned (some "*")], by decide⟩,
        ⟨"mvn", "h:c", [.pinned none], by decide⟩]] := by
  have read := toOption_eq_some_iff.1 (show (readDependencies manyBlocks).toOption =
    some [[⟨"mvn", "g:a", [.pinned (some "2.0")], by decide⟩],
      [⟨"mvn", "h:b", [.pinned (some "*")], by decide⟩,
        ⟨"mvn", "h:c", [.pinned none], by decide⟩]] by decide +kernel)
  cases parsed : Xml.parse manyBlocks with
  | error defect =>
    rw [readDependencies, parse, parsed] at read
    cases read
  | ok root =>
    obtain ⟨refused, -, declared, -⟩ := readDependencies_declared parsed
    refine ⟨root, rfl, fun incomplete => ?_, (declared _).1 read⟩
    obtain ⟨failure, failed, -⟩ := refused.2 incomplete
    rw [read] at failed
    cases failed

end

end CallGraph.Maven.Pom
