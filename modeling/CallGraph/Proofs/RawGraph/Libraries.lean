import CallGraph.Proofs.RawGraph.Names

/-! What a raw graph says of methods outside the artifact. Such a method shows in
the artifact's call graph only as the end of a call that a method of the artifact
makes, and only then is its name read. So an analyzer may list as many more of them
as it likes, under any names, and what these methods call: the call graph is the
same, and so is the reason why there is none. -/
namespace CallGraph.RawGraph
open Listing

/-- The second list has the items of the first one in their order, and others of a
sort among them. -/
inductive WithMore {α : Type} (sort : α → Prop) : List α → List α → Prop
  | nil : WithMore sort [] []
  | kept {xs ys : List α} (x : α) (later : WithMore sort xs ys) : WithMore sort (x :: xs) (x :: ys)
  | more {xs ys : List α} {y : α} (ofSort : sort y) (later : WithMore sort xs ys) :
      WithMore sort xs (y :: ys)

namespace WithMore

variable {α β ε : Type} {sort : α → Prop} {xs ys : List α}

theorem mem (more : WithMore sort xs ys) {x : α} (inside : x ∈ xs) : x ∈ ys := by
  induction more with
  | nil => exact inside
  | kept x _ ih =>
    rcases List.mem_cons.1 inside with rfl | later
    · exact List.mem_cons_self
    · exact List.mem_cons_of_mem _ (ih later)
  | more _ _ ih => exact List.mem_cons_of_mem _ (ih inside)

/-- What has no item of the sort has the same items of both lists. -/
theorem filter_eq (more : WithMore sort xs ys) {p : α → Bool} (without : ∀ y, sort y → p y = false) :
    ys.filter p = xs.filter p := by
  induction more with
  | nil => rfl
  | kept x _ ih => rw [List.filter_cons, List.filter_cons, ih]
  | more ofSort _ ih => rw [List.filter_cons, without _ ofSort, ih]; rfl

/-- Where items of the sort are read as nothing and the others are read alike, both
lists are read alike, or fail alike. -/
theorem mapM_eq (more : WithMore sort xs ys) {f f' : α → Except ε (Option β)}
    (alike : ∀ x ∈ xs, f' x = f x) (nothing : ∀ y, sort y → f' y = .ok none) :
    (ys.mapM f').map (·.filterMap id) = (xs.mapM f).map (·.filterMap id) := by
  induction more with
  | nil => rfl
  | @kept xs ys x _ ih =>
    have later := ih fun z mem => alike z (List.mem_cons_of_mem x mem)
    rw [List.mapM_cons, List.mapM_cons, alike x List.mem_cons_self]
    cases f x with
    | error e => rfl
    | ok result =>
      have step : ∀ read : Except ε (List (Option β)),
          (read >>= fun rest => pure (result :: rest)).map (·.filterMap id) =
            (read.map (·.filterMap id)).map (result.toList ++ ·) := by
        intro read
        cases read with
        | error e => rfl
        | ok rest => cases result <;> rfl
      exact (step _).trans ((congrArg _ later).trans (step _).symm)
  | @more xs ys y ofSort _ ih =>
    rw [List.mapM_cons, nothing _ ofSort, ← ih alike]
    cases ys.mapM f' <;> rfl

end WithMore

/-- The second graph is the first one with more methods outside the artifact, and
with more calls that such methods make. That the identifiers of these methods are
new is part of its being a graph. -/
structure LibraryExtension (graph graph' : RawGraph) : Prop where
  nodes : WithMore (fun node => node.origin = .library) graph.nodes graph'.nodes
  edges : WithMore (fun edge => ∃ caller ∈ graph'.nodes, caller.id = edge.caller ∧
    caller.origin = .library) graph.edges graph'.edges
  types : graph'.types = graph.types

variable {graph graph' : RawGraph} {own : List (Int × MethodUri)}

/-- Of the graph, a call is read only by its callee's node. -/
theorem readCall_congr {number? : Int → Option Nat} {edge : CallEdge}
    (same : graph'.node? edge.callee = graph.node? edge.callee) :
    graph'.readCall number? edge = graph.readCall number? edge := by
  rw [node?, node?] at same
  rw [readCall, readCall, same]

namespace LibraryExtension

variable (extension : LibraryExtension graph graph')

include extension

theorem applicationMethods : graph'.applicationMethods = graph.applicationMethods := by
  rw [RawGraph.applicationMethods, RawGraph.applicationMethods,
    extension.nodes.filter_eq fun node library => by simp [library]]

theorem node? {id : Int} {node : MethodNode} (found : graph.node? id = some node) :
    graph'.node? id = some node := by
  obtain ⟨mem, same⟩ := node?_eq_some_iff.1 found
  exact node?_eq_some_iff.2 ⟨extension.nodes.mem mem, same⟩

/-- Calls are read alike, and those that are new are left out. -/
theorem readCalls (read : graph'.applicationMethods = .ok own) :
    (graph'.edges.mapM (graph'.readCall (number? own (numberMethods (own.map Prod.snd))))).map
        (·.filterMap id) =
      (graph.edges.mapM (graph.readCall (number? own (numberMethods (own.map Prod.snd))))).map
        (·.filterMap id) := by
  refine extension.edges.mapM_eq ?_ ?_
  · intro edge mem
    obtain ⟨-, callee, -, found⟩ := exists_ends mem
    exact readCall_congr ((extension.node? found).trans found.symm)
  · rintro edge ⟨caller, mem, same, library⟩
    refine readCall_unnumbered edge (Option.eq_none_iff_forall_ne_some.2 fun number numbered => ?_)
    have own := (number?_isSome_iff read (node?_eq_some_iff.2 ⟨mem, same⟩)).1 ⟨number, numbered⟩
    cases library.symm.trans own

end LibraryExtension

/-- The calls that are read matter for what they are, and those left out do not. -/
theorem assemble_eq (graph : RawGraph) : graph.assemble = (do
    let own ← graph.applicationMethods
    let typed ← graph.types.entries.foldlM (fun g entry => attachFacts g entry.1 entry.2)
      (fileMethods ∅ 0 (numberMethods (own.map Prod.snd)))
    ((graph.edges.mapM (graph.readCall (number? own (numberMethods (own.map Prod.snd))))).map
      (·.filterMap id)).map (enterCalls typed)) := by
  rw [assemble]
  refine bind_congr fun own => bind_congr fun typed => ?_
  cases graph.edges.mapM (graph.readCall (number? own (numberMethods (own.map Prod.snd)))) <;> rfl

/-- **Libraries do not show.** More methods outside the artifact, whatever their
names are, and more calls that such methods make leave the outcome as it is: the
same call graph, or the same defect. -/
theorem assemble_extension (extension : LibraryExtension graph graph') :
    graph'.assemble = graph.assemble := by
  rw [assemble_eq, assemble_eq, extension.applicationMethods, extension.types]
  cases read : graph.applicationMethods with
  | error defect => rfl
  | ok own =>
    have calls := extension.readCalls (extension.applicationMethods.trans read)
    simp only [bind, Except.bind, calls]

/-- The same methods and calls as in `twiceListed`, and among them methods of
libraries that no name can be read of, with calls to the artifact and to each
other. -/
def amongLibraries : RawGraph where
  nodes := [⟨.library, 9, "]", "", "("⟩, ⟨.application, 1, "La/T", "g", "()V"⟩,
    ⟨.library, 8, "La/T", "g", "()V"⟩, ⟨.application, 2, "La/T", "g", "()V"⟩,
    ⟨.library, 3, "Lb/U", "h", "()V"⟩]
  edges := [⟨9, 1, .invokestatic⟩, ⟨1, 2, .invokestatic⟩, ⟨2, 3, .invokevirtual⟩,
    ⟨8, 9, .invokespecial⟩, ⟨2, 3, .invokevirtual⟩, ⟨3, 9, .invokeinterface⟩]
  types := ∅
  nodup := by decide
  closed := by decide

theorem assemble_extension_unreadable :
    (∃ defect, (⟨.library, 9, "]", "", "("⟩ : MethodNode).method (some externalProduct) =
      .error defect) ∧
    ∃ result, twiceListed.assemble = .ok result ∧ amongLibraries.assemble = .ok result := by
  have extension : LibraryExtension twiceListed amongLibraries := by
    refine ⟨.more rfl (.kept _ (.more rfl (.kept _ (.kept _ .nil)))), ?_, rfl⟩
    exact .more (by decide) (.kept _ (.kept _ (.more (by decide) (.kept _ (.more (by decide) .nil)))))
  have assembled := assemble_eq_ok.2 ⟨_, _, _, twiceListed_stages, rfl⟩
  refine ⟨⟨_, rfl⟩, _, assembled, ?_⟩
  rw [assemble_extension extension, assembled]

end CallGraph.RawGraph
