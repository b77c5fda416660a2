import CallGraph.Proofs.ArtifactGraph.History
import CallGraph.Proofs.RawGraph.Blocks
import CallGraph.Proofs.RawGraph.Names

/-! The order of the facts on types. Facts go to the type that a name is read as,
in place of facts recorded before. Which graphs are assembled, and what they show
besides supertypes, does not depend on the order of the facts; a type has the
supertypes that were told of it last. A type has several names that are read, with
and without a semicolon at the end for one, and a table of facts may hold more than
one of them, so what is told last may depend on the order. -/
namespace CallGraph

namespace ArtifactGraph

/-- The entry of a type shows its supertypes. -/
theorem supertypesOf_of_mem {graph : ArtifactGraph} {entry : TypeUri × TypeMethods}
    (mem : entry ∈ graph.hierarchy.entries) : graph.supertypesOf entry.1 = entry.2.supertypes := by
  rw [supertypesOf, Table.get?_eq_some_iff.2 mem, Option.bind_some]

/-- Graphs that show the same methods, supertypes and calls are the same. -/
theorem eq_of_views {a b : ArtifactGraph} (methods : a.blocks = b.blocks)
    (supertypes : ∀ type, a.supertypesOf type = b.supertypesOf type)
    (internal : a.internalCalls = b.internalCalls)
    (external : a.externalCalls = b.externalCalls) : a = b := by
  have entries : a.hierarchy.entries = b.hierarchy.entries := by
    refine List.ext_getElem (by simpa [blocks] using congrArg List.length methods) ?_
    intro i here there
    have block := List.getElem_of_eq methods (by simpa [blocks] using here)
    simp only [blocks, List.getElem_map, Prod.mk.injEq] at block
    obtain ⟨type, listed⟩ := block
    have told := supertypes (a.hierarchy.entries[i]).1
    rw [supertypesOf_of_mem (List.getElem_mem here), type,
      supertypesOf_of_mem (List.getElem_mem there)] at told
    have known : ∀ {known known' : TypeMethods}, known.methods = known'.methods →
        known.supertypes = known'.supertypes → known = known' := by
      rintro ⟨⟩ ⟨⟩ rfl rfl
      rfl
    exact Prod.ext type (known (Table.eq_of_entries listed) told)
  have hierarchy := Table.eq_of_entries entries
  cases a
  cases b
  simp_all

end ArtifactGraph

namespace RawGraph
open Listing ArtifactGraph

variable {graph : RawGraph} {own : List (Int × MethodUri)} {typed result : ArtifactGraph}
  {calls : List (Option Call)} {type : TypeUri}

/-- The graph with other facts on types. -/
def withTypes (graph : RawGraph) (types : Table String TypeFacts) : RawGraph :=
  { graph with types }

/-- The supertypes that an entry tells of a type. -/
def told? (type : TypeUri) (entry : String × TypeFacts) : Option Supertypes :=
  if Jvm.typeOfName entry.1 = .ok type then (readSupertypes entry.2).toOption else none

/-! ## What is told last -/

theorem supertypesOf_attachFacts {before after : ArtifactGraph} {entry : String × TypeFacts}
    (attached : attachFacts before entry.1 entry.2 = .ok after)
    (known : before.hierarchy.contains type = true) :
    after.supertypesOf type = (told? type entry).or (before.supertypesOf type) := by
  obtain ⟨declarer, read, attached⟩ := bind_eq_ok.1 attached
  by_cases same : declarer = type
  · subst same
    rw [if_pos known] at attached
    obtain ⟨supertypes, readAll, done⟩ := bind_eq_ok.1 attached
    obtain rfl := Except.ok.inj done
    have recorded := supertypesOf_apply before (.setSupertypes declarer supertypes) declarer
    rw [Operation.supertypesFor?, if_pos rfl] at recorded
    rw [told?, if_pos read, readAll]
    exact recorded
  · have untold : told? type entry = none := if_neg fun read' =>
      same (Except.ok.inj (read.symm.trans read'))
    rw [untold, Option.none_or]
    split at attached
    · obtain ⟨supertypes, -, done⟩ := bind_eq_ok.1 attached
      obtain rfl := Except.ok.inj done
      have recorded := supertypesOf_apply before (.setSupertypes declarer supertypes) type
      rwa [Operation.supertypesFor?, if_neg same, Option.none_or] at recorded
    · obtain rfl := Except.ok.inj attached
      rfl

theorem supertypesOf_fileMethods (filed : ArtifactGraph) (first : Nat) (methods : List MethodUri) :
    (fileMethods filed first methods).supertypesOf type = filed.supertypesOf type := by
  induction methods generalizing filed first with
  | nil => rfl
  | cons method rest ih =>
    rw [fileMethods, ih]
    exact supertypesOf_apply filed (.addMethod first method) type

theorem Stages.hasDeclared (stages : Stages graph own typed calls) : HasDeclared graph typed :=
  foldlM_keeps (fun _ _ _ _ attached has => has.attachFacts attached) stages.facts
    (hasDeclared_fileMethods stages.methods)

/-- A type of the artifact has the supertypes that were told of it last. -/
theorem Stages.supertypesOf_declared (stages : Stages graph own typed calls)
    (declared : graph.Declares type) :
    typed.supertypesOf type = (graph.types.entries.filterMap (told? type)).getLast? := by
  have last := foldlM_shows_last (p := HasDeclared graph) (fun g => g.supertypesOf type)
    (told? type) (fun _ _ _ attached has =>
      ⟨has.attachFacts attached, supertypesOf_attachFacts attached ((has type).2 declared)⟩)
    stages.facts (hasDeclared_fileMethods stages.methods)
  rw [last, supertypesOf_fileMethods]
  exact Option.or_none

theorem Stages.supertypesOf_undeclared (stages : Stages graph own typed calls)
    (undeclared : ¬ graph.Declares type) : typed.supertypesOf type = none := by
  have unknown := mt (stages.hasDeclared type).1 undeclared
  rw [Table.contains, Option.not_isSome_iff_eq_none] at unknown
  rw [supertypesOf, unknown, Option.bind_none]

/-- The types of the artifact have the supertypes that were told of them last,
and nothing is known of others. -/
structure ToldLast (graph : RawGraph) (result : ArtifactGraph) : Prop where
  declared : ∀ type, graph.Declares type →
    result.supertypesOf type = (graph.types.entries.filterMap (told? type)).getLast?
  undeclared : ∀ type, ¬ graph.Declares type → result.supertypesOf type = none

theorem toldLast_of_assemble (assembled : graph.assemble = .ok result) : ToldLast graph result := by
  obtain ⟨own, typed, calls, stages, rfl⟩ := assemble_eq_ok.1 assembled
  have entered : ∀ type, (enterCalls typed (calls.filterMap id)).supertypesOf type =
      typed.supertypesOf type := by
    intro type
    rw [supertypesOf, hierarchy_enterCalls, ← supertypesOf]
  exact ⟨fun type declared => (entered type).trans (stages.supertypesOf_declared declared),
    fun type undeclared => (entered type).trans (stages.supertypesOf_undeclared undeclared)⟩

/-! ## Another order -/

/-- What a graph shows besides supertypes. -/
structure SameButSupertypes (result result' : ArtifactGraph) : Prop where
  methods : result'.blocks = result.blocks
  internal : result'.internalCalls = result.internalCalls
  external : result'.externalCalls = result.externalCalls

theorem externalCalls_enterCalls (typed : ArtifactGraph) (calls : List Call) :
    (enterCalls typed calls).externalCalls = (externalCalls calls).foldl
      (fun entered call => entered.update (call.1, call.2.1)
        fun counts => countCall counts call.2.2.name) typed.externalCalls := by
  rw [enterCalls_eq, addExternalCalls,
    ← externalCalls_addInternalCalls asPair (internalCalls calls) typed]
  refine (List.foldl_hom ArtifactGraph.externalCalls ?_).symm
  intro _ _
  rfl

/-- Facts on types do not show in anything but supertypes. -/
theorem sameButSupertypes_of_stages {types : Table String TypeFacts} {typed' : ArtifactGraph}
    (stages : Stages graph own typed calls) (stages' : Stages (graph.withTypes types) own typed' calls) :
    SameButSupertypes (enterCalls typed (calls.filterMap id))
      (enterCalls typed' (calls.filterMap id)) where
  methods := by
    rw [blocks, blocks, hierarchy_enterCalls, hierarchy_enterCalls, ← blocks, ← blocks,
      stages.blocks_typed, stages'.blocks_typed]
  internal := by
    rw [RawGraph.internalCalls_enterCalls stages.typed_fresh.1,
      RawGraph.internalCalls_enterCalls stages'.typed_fresh.1]
  external := by
    rw [externalCalls_enterCalls, externalCalls_enterCalls, stages.typed_fresh.2,
      stages'.typed_fresh.2]

/-- Whether a name can be read does not depend on where it stands. -/
theorem Misnamed.of_withTypes {types : Table String TypeFacts} {defect : Jvm.Defect}
    (perm : graph.types.entries.Perm types.entries)
    (misnamed : (graph.withTypes types).Misnamed defect) : graph.Misnamed defect := by
  cases misnamed with
  | method mem origin refused => exact .method mem origin refused
  | type mem refused => exact .type (perm.mem_iff.2 mem) refused
  | supertype mem read declared named refused =>
    exact .supertype (perm.mem_iff.2 mem) read declared named refused
  | callee mem atCaller origin atCallee foreign refused =>
    exact .callee mem atCaller origin atCallee foreign refused

theorem assemble_withTypes (assembled : graph.assemble = .ok result)
    {types : Table String TypeFacts} (perm : graph.types.entries.Perm types.entries) :
    ∃ result', (graph.withTypes types).assemble = .ok result' ∧ SameButSupertypes result result' := by
  cases assembled' : (graph.withTypes types).assemble with
  | error defect =>
    exact absurd ((misnamed_of_assemble assembled').of_withTypes perm)
      (not_misnamed_of_assemble assembled)
  | ok result' =>
    obtain ⟨own, typed, calls, stages, rfl⟩ := assemble_eq_ok.1 assembled
    obtain ⟨own', typed', calls', stages', rfl⟩ := assemble_eq_ok.1 assembled'
    -- The facts on types are read after the methods, and not looked at for the calls.
    obtain rfl : own = own' := Except.ok.inj (stages.methods.symm.trans stages'.methods)
    obtain rfl : calls = calls' := Except.ok.inj (stages.read.symm.trans stages'.read)
    exact ⟨_, rfl, sameButSupertypes_of_stages stages stages'⟩

/-- Any two entries that are about one type of the artifact tell the same of
it. -/
def FactsAgree (graph : RawGraph) : Prop :=
  ∀ type, graph.Declares type → ∀ entry ∈ graph.types.entries, ∀ entry' ∈ graph.types.entries,
    Jvm.typeOfName entry.1 = .ok type → Jvm.typeOfName entry'.1 = .ok type →
      readSupertypes entry.2 = readSupertypes entry'.2

theorem told?_eq_some_iff {entry : String × TypeFacts} {supertypes : Supertypes} :
    told? type entry = some supertypes ↔
      Jvm.typeOfName entry.1 = .ok type ∧ readSupertypes entry.2 = .ok supertypes := by
  rw [told?]
  split
  · next read => rw [toOption_eq_some_iff, and_iff_right read]
  · next other => simp [other]

/-- The facts on a declared type are read, where a graph is assembled. -/
theorem exists_told (assembled : graph.assemble = .ok result) (declared : graph.Declares type)
    {entry : String × TypeFacts} (mem : entry ∈ graph.types.entries)
    (read : Jvm.typeOfName entry.1 = .ok type) :
    ∃ supertypes, readSupertypes entry.2 = .ok supertypes := by
  cases told : readSupertypes entry.2 with
  | ok supertypes => exact ⟨supertypes, rfl⟩
  | error defect =>
    obtain ⟨name, named, refused⟩ := exists_of_readSupertypes_error told
    exact absurd (.supertype mem read declared named refused) (not_misnamed_of_assemble assembled)

theorem FactsAgree.supertypesOf_eq (agree : FactsAgree graph)
    (assembled : graph.assemble = .ok result) {types : Table String TypeFacts}
    (perm : graph.types.entries.Perm types.entries) {result' : ArtifactGraph}
    (assembled' : (graph.withTypes types).assemble = .ok result') (type : TypeUri) :
    result'.supertypesOf type = result.supertypesOf type := by
  by_cases declared : graph.Declares type
  · rw [(toldLast_of_assemble assembled).declared type declared,
      (toldLast_of_assemble assembled').declared type declared]
    refine getLast?_perm (perm.filterMap _) ?_
    intro supertypes mem supertypes' mem'
    obtain ⟨entry, listed, told⟩ := List.mem_filterMap.1 mem
    obtain ⟨entry', listed', told'⟩ := List.mem_filterMap.1 mem'
    obtain ⟨read, readAll⟩ := told?_eq_some_iff.1 told
    obtain ⟨read', readAll'⟩ := told?_eq_some_iff.1 told'
    have same := agree type declared entry listed entry' listed' read read'
    exact Except.ok.inj (readAll.symm.trans (same.trans readAll'))
  · rw [(toldLast_of_assemble assembled).undeclared type declared,
      (toldLast_of_assemble assembled').undeclared type declared]

/-- Whatever is told of a declared type is told last in some order. -/
theorem exists_toldLast {entry : String × TypeFacts} (mem : entry ∈ graph.types.entries)
    {supertypes : Supertypes} (told : told? type entry = some supertypes) :
    ∃ types : Table String TypeFacts, graph.types.entries.Perm types.entries ∧
      (types.entries.filterMap (told? type)).getLast? = some supertypes := by
  obtain ⟨before, after, split⟩ := List.append_of_mem mem
  have perm : graph.types.entries.Perm (before ++ after ++ [entry]) := by
    rw [split]
    exact List.perm_middle.trans (List.perm_append_singleton entry (before ++ after)).symm
  have distinct : ((before ++ after ++ [entry]).map Prod.fst).Nodup :=
    (perm.map Prod.fst).nodup_iff.1 graph.types.nodup
  refine ⟨⟨_, distinct⟩, perm, ?_⟩
  rw [List.filterMap_append, List.filterMap_cons_some told, List.filterMap_nil,
    List.getLast?_concat]

/-- If no order of the facts shows, they agree. -/
theorem factsAgree_of_unordered (assembled : graph.assemble = .ok result)
    (unordered : ∀ (types : Table String TypeFacts) (result' : ArtifactGraph),
      graph.types.entries.Perm types.entries →
      (graph.withTypes types).assemble = .ok result' → result' = result) : FactsAgree graph := by
  intro type declared entry mem entry' mem' read read'
  have shown : ∀ entry ∈ graph.types.entries, Jvm.typeOfName entry.1 = .ok type →
      ∃ supertypes, readSupertypes entry.2 = .ok supertypes ∧
        result.supertypesOf type = some supertypes := by
    intro entry mem read
    obtain ⟨supertypes, readAll⟩ := exists_told assembled declared mem read
    obtain ⟨types, perm, last⟩ := exists_toldLast mem (told?_eq_some_iff.2 ⟨read, readAll⟩)
    obtain ⟨result', assembled', -⟩ := assemble_withTypes assembled perm
    obtain rfl := unordered types result' perm assembled'
    exact ⟨supertypes, readAll, ((toldLast_of_assemble assembled').declared type declared).trans last⟩
  obtain ⟨supertypes, readAll, told⟩ := shown entry mem read
  obtain ⟨supertypes', readAll', told'⟩ := shown entry' mem' read'
  rw [readAll, readAll', Option.some.inj (told.symm.trans told')]

/-- Facts under names that are read as different types agree. -/
theorem factsAgree_of_injOn (apart : ∀ entry ∈ graph.types.entries,
    ∀ entry' ∈ graph.types.entries, Jvm.typeOfName entry.1 = Jvm.typeOfName entry'.1 →
      entry.1 = entry'.1) : FactsAgree graph := by
  intro type _ entry mem entry' mem' read read'
  have name := apart entry mem entry' mem' (read.trans read'.symm)
  rw [List.inj_on_of_nodup_map graph.types.nodup mem mem' name]

/-- **Facts on types may stand in any order as long as they agree.** Where a graph
is assembled, it is assembled with its facts in any other order, and methods, their
numbers and calls are the same; each type of the artifact has the supertypes that
were told of it last. The order shows nowhere exactly if any two entries on one type
of the artifact tell the same, and this is so if no two names are read as one type. -/
theorem assemble_reordered (assembled : graph.assemble = .ok result) :
    (∀ types : Table String TypeFacts, graph.types.entries.Perm types.entries →
      ∃ result', (graph.withTypes types).assemble = .ok result' ∧
        SameButSupertypes result result' ∧ ToldLast (graph.withTypes types) result') ∧
    ((∀ (types : Table String TypeFacts) (result' : ArtifactGraph),
      graph.types.entries.Perm types.entries →
      (graph.withTypes types).assemble = .ok result' → result' = result) ↔ FactsAgree graph) ∧
    ((∀ entry ∈ graph.types.entries, ∀ entry' ∈ graph.types.entries,
      Jvm.typeOfName entry.1 = Jvm.typeOfName entry'.1 → entry.1 = entry'.1) →
        FactsAgree graph) := by
  refine ⟨?_, ⟨factsAgree_of_unordered assembled, ?_⟩, factsAgree_of_injOn⟩
  · intro types perm
    obtain ⟨result', assembled', same⟩ := assemble_withTypes assembled perm
    exact ⟨result', assembled', same, toldLast_of_assemble assembled'⟩
  · intro agree types result' perm assembled'
    obtain ⟨_, again, same⟩ := assemble_withTypes assembled perm
    obtain rfl := Except.ok.inj (assembled'.symm.trans again)
    exact eq_of_views same.methods (agree.supertypesOf_eq assembled perm assembled')
      same.internal same.external

/-- A graph with one method, of the class `a.T`. -/
def oneClass (types : Table String TypeFacts) : RawGraph where
  nodes := [⟨.application, 0, "La/T", "f", "()V"⟩]
  edges := []
  types
  nodup := by decide
  closed := by decide

/-- The same facts under two names of the class. -/
def toldAlike : Table String TypeFacts :=
  ⟨[("La/T", ⟨some "Lx/X", []⟩), ("La/T;", ⟨some "Lx/X", []⟩)], by decide⟩

theorem assemble_reordered_alike : ∃ result, (oneClass toldAlike).assemble = .ok result ∧
    ∀ (types : Table String TypeFacts) (result' : ArtifactGraph),
      toldAlike.entries.Perm types.entries → (oneClass types).assemble = .ok result' →
        result' = result := by
  have succeeds : (oneClass toldAlike).assemble.toOption.isSome = true := by decide +kernel
  obtain ⟨result, found⟩ := Option.isSome_iff_exists.1 succeeds
  have assembled := toOption_eq_some_iff.1 found
  have facts : ∀ entry ∈ toldAlike.entries, entry.2 = ⟨some "Lx/X", []⟩ := by decide
  obtain ⟨-, unordered, -⟩ := assemble_reordered assembled
  refine ⟨result, assembled, unordered.2 fun type _ entry mem entry' mem' _ _ => ?_⟩
  rw [facts entry mem, facts entry' mem']

/-- Two superclasses under two names of the class. -/
def toldApart : Table String TypeFacts :=
  ⟨[("La/T", ⟨some "Lx/X", []⟩), ("La/T;", ⟨some "Ly/Y", []⟩)], by decide⟩

def toldApartReversed : Table String TypeFacts :=
  ⟨[("La/T;", ⟨some "Ly/Y", []⟩), ("La/T", ⟨some "Lx/X", []⟩)], by decide⟩

/-- The class extends `y.Y` or `x.X`, by the order of its two names. -/
theorem reordered_toldApart : toldApart.entries.Perm toldApartReversed.entries ∧
    ∃ result result' type x y, (oneClass toldApart).assemble = .ok result ∧
      (oneClass toldApartReversed).assemble = .ok result' ∧ x ≠ y ∧
      result.supertypesOf type = some ⟨[y], []⟩ ∧ result'.supertypesOf type = some ⟨[x], []⟩ := by
  let t : TypeUri := ⟨"a", "T", 0, by decide, by decide⟩
  let x : TypeUri := ⟨"x", "X", 0, by decide, by decide⟩
  let y : TypeUri := ⟨"y", "Y", 0, by decide, by decide⟩
  have shown : ((oneClass toldApart).assemble.toOption.bind fun result => result.supertypesOf t) =
      some ⟨[y], []⟩ := by decide +kernel
  have shown' : ((oneClass toldApartReversed).assemble.toOption.bind fun result =>
      result.supertypesOf t) = some ⟨[x], []⟩ := by decide +kernel
  obtain ⟨result, assembled, told⟩ := Option.bind_eq_some_iff.1 shown
  obtain ⟨result', assembled', told'⟩ := Option.bind_eq_some_iff.1 shown'
  exact ⟨List.Perm.swap .., result, result', t, x, y, toOption_eq_some_iff.1 assembled,
    toOption_eq_some_iff.1 assembled', by decide, told, told'⟩

end RawGraph
end CallGraph
