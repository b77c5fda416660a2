import CallGraph.Xml.Element
import Mathlib.Data.List.Forall2

/-! Elements among the parts of a content, found by their local names. The
relations speak of the content alone; the reader's searches for the first
element with a name, and for all of them, are shown to agree with them. -/
namespace CallGraph.Xml.Node

/-- The node is an element with the name, in whatever namespace. -/
def IsNamed (name : String) (node : Node) : Prop :=
  ∃ ns children, node = .element ns name children

/-- No part of the content is an element with the name. -/
def Lacks (name : String) (content : List Node) : Prop :=
  ∀ node ∈ content, ¬ node.IsNamed name

/-- The first element with the name holds these children. -/
def First (name : String) (content children : List Node) : Prop :=
  ∃ before ns after, content = before ++ .element ns name children :: after ∧ Lacks name before

/-- The elements with the name hold these children, in the order of the
content. -/
inductive Each (name : String) : List Node → List (List Node) → Prop
  | nil : Each name [] []
  | named {content : List Node} {rest : List (List Node)} (ns : String) (children : List Node)
      (later : Each name content rest) :
      Each name (.element ns name children :: content) (children :: rest)
  | other {node : Node} {content : List Node} {rest : List (List Node)}
      (unnamed : ¬ node.IsNamed name) (later : Each name content rest) :
      Each name (node :: content) rest

/-- What is found under a name: the children of the first element, or
nothing where there is no such element. -/
def Found (name : String) (content : List Node) : Option (List Node) → Prop
  | some children => First name content children
  | none => Lacks name content

variable {name : String} {content children : List Node} {node : Node}

theorem childrenNamed_named (ns : String) :
    childrenNamed name (.element ns name children :: content) =
      children :: childrenNamed name content := by
  simp [childrenNamed]

theorem childrenNamed_other (unnamed : ¬ node.IsNamed name) :
    childrenNamed name (node :: content) = childrenNamed name content := by
  cases node with
  | text _ => rfl
  | element ns found children =>
    have different : found ≠ name := by
      rintro rfl
      exact unnamed ⟨ns, children, rfl⟩
    simp [childrenNamed, different]

theorem childrenNamed_eq_iff {found : List (List Node)} :
    childrenNamed name content = found ↔ Each name content found := by
  constructor
  · rintro rfl
    induction content with
    | nil => exact .nil
    | cons node content ih =>
      by_cases named : node.IsNamed name
      · obtain ⟨ns, children, rfl⟩ := named
        rw [childrenNamed_named]
        exact .named ns children ih
      · rw [childrenNamed_other named]
        exact .other named ih
  · intro each
    induction each with
    | nil => rfl
    | named ns children _ ih => rw [childrenNamed_named, ih]
    | other unnamed _ ih => rw [childrenNamed_other unnamed, ih]

theorem childrenNamed_eq_nil_iff : childrenNamed name content = [] ↔ Lacks name content := by
  induction content with
  | nil => simp [childrenNamed, Lacks]
  | cons node content ih =>
    by_cases named : node.IsNamed name
    · obtain ⟨ns, children, rfl⟩ := named
      rw [childrenNamed_named]
      constructor
      · intro empty
        cases empty
      · intro lacks
        exact absurd ⟨ns, children, rfl⟩ (lacks _ List.mem_cons_self)
    · rw [childrenNamed_other named, ih]
      simp [Lacks, named]

theorem childrenNamed_append (before after : List Node) :
    childrenNamed name (before ++ after) = childrenNamed name before ++ childrenNamed name after :=
  List.filterMap_append

theorem firstNamed?_eq_some_iff :
    firstNamed? name content = some children ↔ First name content children := by
  constructor
  · intro found
    induction content with
    | nil => cases found
    | cons node content ih =>
      by_cases named : node.IsNamed name
      · obtain ⟨ns, inner, rfl⟩ := named
        rw [firstNamed?, childrenNamed_named] at found
        obtain rfl := Option.some.inj found
        exact ⟨[], ns, content, rfl, by simp [Lacks]⟩
      · rw [firstNamed?, childrenNamed_other named] at found
        obtain ⟨before, ns, after, rfl, lacks⟩ := ih found
        exact ⟨node :: before, ns, after, rfl, by simpa [Lacks, named] using lacks⟩
  · rintro ⟨before, ns, after, rfl, lacks⟩
    rw [firstNamed?, childrenNamed_append, childrenNamed_eq_nil_iff.2 lacks, childrenNamed_named]
    rfl

theorem firstNamed?_eq_none_iff : firstNamed? name content = none ↔ Lacks name content := by
  rw [firstNamed?, List.head?_eq_none_iff, childrenNamed_eq_nil_iff]

theorem firstNamed?_eq_iff {found : Option (List Node)} :
    firstNamed? name content = found ↔ Found name content found := by
  cases found with
  | none => exact firstNamed?_eq_none_iff
  | some children => exact firstNamed?_eq_some_iff

/-- What is found in each of several contents. -/
theorem map_firstNamed?_eq_iff {contents : List (List Node)} {found : List (Option (List Node))} :
    contents.map (firstNamed? name) = found ↔ List.Forall₂ (Found name) contents found := by
  rw [← List.forall₂_eq_eq_eq, List.forall₂_map_left_iff]
  simp only [firstNamed?_eq_iff]

end CallGraph.Xml.Node
