import CallGraph.Xml.Element
import CallGraph.Proofs.Listing

/-! Names of elements. In whatever way a document comes to its elements, each of
them is named as the grammar names things: also in what an entity stands for, which
is read like any text. So no element has an empty name, and no name has a brace. -/
namespace CallGraph.Xml
open Listing

/-- The characters are a name. -/
inductive IsName : List Char → Prop
  | intro {first : Char} {others : List Char} (starts : isNameStart first = true)
      (continues : ∀ c ∈ others, isNameChar c = true) : IsName (first :: others)

namespace IsName

variable {name : List Char}

theorem ne_nil (named : IsName name) : name ≠ [] := by
  rintro rfl
  cases named

theorem isNameChar_of_mem (named : IsName name) {c : Char} (mem : c ∈ name) :
    isNameChar c = true := by
  cases named with
  | intro starts continues =>
    rcases List.mem_cons.1 mem with rfl | later
    · rw [isNameChar, starts, Bool.true_or]
    · exact continues c later

theorem brace_not_mem (named : IsName name) : '\x7d' ∉ name := by
  intro mem
  have other : isNameChar '\x7d' = false := by decide +kernel
  cases other.symm.trans (named.isNameChar_of_mem mem)

end IsName

/-! ## Tags -/

section Tags

variable {cs rest : List Char}

theorem isName_of_takeName {name : List Char} (taken : takeName cs = some (name, rest)) :
    IsName name := by
  cases cs with
  | nil => cases taken
  | cons c cs =>
    rw [takeName] at taken
    split at taken
    · next starts =>
      obtain ⟨rfl, -⟩ := Prod.mk.inj (Option.some.inj taken)
      exact .intro starts fun c mem => List.all_eq_true.1 List.all_takeWhile c mem
    · cases taken

theorem isName_of_takeQName {name : QName} (taken : takeQName cs = some (name, rest)) :
    IsName name.name := by
  rw [takeQName] at taken
  obtain ⟨⟨first, after⟩, front, taken⟩ := Option.bind_eq_some_iff.1 taken
  dsimp only at taken
  split at taken
  · obtain ⟨⟨second, after⟩, back, taken⟩ := Option.bind_eq_some_iff.1 taken
    obtain ⟨rfl, -⟩ := Prod.mk.inj (Option.some.inj taken)
    exact isName_of_takeName back
  · obtain ⟨rfl, -⟩ := Prod.mk.inj (Option.some.inj taken)
    exact isName_of_takeName front

/-- A tag that begins an element has a name. -/
def Token.Named : Token → Prop
  | .start name _ _ => IsName name.name
  | _ => True

theorem named_of_takeTag {token : Token} (taken : takeTag cs = some (token, rest)) :
    token.Named := by
  unfold takeTag at taken
  split at taken
  · dsimp only at taken
    split at taken
    · split at taken
      · cases taken
      · obtain ⟨rfl, -⟩ := Prod.mk.inj (Option.some.inj taken)
        trivial
    · cases taken
  · obtain ⟨⟨name, after⟩, named, taken⟩ := Option.bind_eq_some_iff.1 taken
    obtain ⟨⟨attributes, empty, after⟩, -, taken⟩ := Option.bind_eq_some_iff.1 taken
    obtain ⟨rfl, -⟩ := Prod.mk.inj (Option.some.inj taken)
    exact isName_of_takeQName named

theorem named_of_takeMarkup {token? : Option Token} (taken : takeMarkup cs = some (token?, rest)) :
    ∀ token ∈ token?, token.Named := by
  unfold takeMarkup at taken
  split at taken
  · obtain ⟨after, -, same⟩ := Option.map_eq_some_iff.1 taken
    cases same
    rintro token ⟨⟩
  · obtain ⟨after, -, same⟩ := Option.map_eq_some_iff.1 taken
    cases same
    rintro token ⟨⟩
  · split at taken
    · obtain ⟨⟨text, after⟩, -, same⟩ := Option.map_eq_some_iff.1 taken
      cases same
      rintro token ⟨⟩
      trivial
    · obtain ⟨⟨tag, after⟩, read, same⟩ := Option.map_eq_some_iff.1 taken
      cases same
      rintro token ⟨⟩
      exact named_of_takeTag read

theorem named_of_tokensFrom {fuel : Nat} {tokens : List Token}
    (read : tokensFrom fuel cs = some tokens) : ∀ token ∈ tokens, token.Named := by
  fun_induction tokensFrom fuel cs generalizing tokens with
  | case1 =>
    cases read
    simp
  | case2 => cases read
  | case3 fuel rest ih =>
    obtain ⟨⟨token?, after⟩, taken, read⟩ := Option.bind_eq_some_iff.1 read
    obtain ⟨more, later, read⟩ := Option.bind_eq_some_iff.1 read
    cases read
    intro token mem
    rcases List.mem_append.1 mem with here | there
    · exact named_of_takeMarkup taken token (Option.mem_toList.1 here)
    · exact ih after later token there
  | case4 fuel rest ih =>
    obtain ⟨⟨reference, after⟩, -, read⟩ := Option.bind_eq_some_iff.1 read
    obtain ⟨more, later, read⟩ := Option.bind_eq_some_iff.1 read
    cases reference <;>
    · cases read
      exact List.forall_mem_cons.2 ⟨trivial, ih after later⟩
  | case5 => cases read
  | case6 =>
    rename_i ih
    obtain ⟨more, later, read⟩ := Option.bind_eq_some_iff.1 read
    cases read
    exact List.forall_mem_cons.2 ⟨trivial, ih later⟩

theorem named_of_tokens? {tokens : List Token} (read : tokens? cs = some tokens) :
    ∀ token ∈ tokens, token.Named :=
  named_of_tokensFrom read

end Tags

/-! ## Elements -/

/-- Every element of a part of the content has a name, and so have those in it. -/
inductive Node.Named : Node → Prop
  | text (content : String) : Named (.text content)
  | element (ns : String) {name : String} {children : List Node} (named : IsName name.toList)
      (inside : ∀ child ∈ children, child.Named) : Named (.element ns name children)

/-- The elements that have been read have names, whether their ends have been read or
not. -/
structure Builder.Named (builder : Builder) : Prop where
  frames : ∀ frame ∈ builder.frames, IsName frame.name.toList ∧ ∀ node ∈ frame.content, node.Named
  root : ∀ node ∈ builder.root, node.Named

namespace Builder.Named

variable {context : Context} {builder after : Builder}

theorem add (named : builder.Named) {node : Node} (part : node.Named)
    (added : builder.add node = some after) : after.Named := by
  unfold Builder.add at added
  split at added
  · next frame frames same =>
    cases added
    have ⟨inner, outer⟩ := List.forall_mem_cons.1 (same ▸ named.frames)
    exact ⟨List.forall_mem_cons.2 ⟨⟨inner.1, List.forall_mem_cons.2 ⟨part, inner.2⟩⟩, outer⟩,
      named.root⟩
  · split at added
    · cases added
      refine ⟨named.frames, ?_⟩
      rintro _ ⟨⟩
      exact part
    · cases added

theorem addText (named : builder.Named) {text : List Char} {isPlain : Bool}
    (added : builder.addText text isPlain = some after) : after.Named := by
  unfold Builder.addText at added
  split at added
  · split at added
    · cases added
      exact named
    · cases added
  · exact named.add (.text _) added

theorem close (named : builder.Named) {written : List Char}
    (closed : builder.close written = some after) : after.Named := by
  unfold Builder.close at closed
  split at closed
  · next frame frames same =>
    have ⟨inner, outer⟩ := List.forall_mem_cons.1 (same ▸ named.frames)
    have outside : Builder.Named { builder with frames } := ⟨outer, named.root⟩
    split at closed
    · refine outside.add (.element _ inner.1 fun child mem => ?_) closed
      exact inner.2 child (List.mem_reverse.1 mem)
    · cases closed
  · cases closed

theorem start (named : builder.Named) {name : QName} {attributes : List Attribute}
    (isName : IsName name.name) (started : builder.start context name attributes = some after) :
    after.Named := by
  unfold Builder.start at started
  obtain ⟨values, -, started⟩ := Option.bind_eq_some_iff.1 started
  obtain ⟨defaults, -, started⟩ := Option.bind_eq_some_iff.1 started
  obtain ⟨bindings, -, started⟩ := Option.bind_eq_some_iff.1 started
  obtain ⟨space, -, started⟩ := Option.bind_eq_some_iff.1 started
  dsimp only at started
  split at started
  · cases started
  · cases started
    refine ⟨List.forall_mem_cons.2 ⟨⟨?_, by simp⟩, named.frames⟩, named.root⟩
    rwa [String.toList_ofList]

/-- What is read in the place of an entity has to keep the names. -/
theorem step {replace : Builder → List Char → Option Builder}
    (replaced : ∀ builder name after, builder.Named → replace builder name = some after → after.Named)
    {floor : Nat} (named : builder.Named) {token : Token} (tag : token.Named)
    (read : builder.step context replace floor token = some after) : after.Named := by
  cases token with
  | plain text => exact named.addText read
  | quoted text => exact named.addText read
  | start name attributes empty =>
    rw [Builder.step] at read
    split at read
    · next opened started =>
      have inside := named.start tag started
      split at read
      · exact inside.close read
      · cases read
        exact inside
    · cases read
  | finish name =>
    rw [Builder.step] at read
    split at read
    · cases read
    · exact named.close read
  | entity name => exact replaced builder name after named read

/-- What a run reads has names, entities and all. -/
theorem run {depth floor : Nat} {inside : List (List Char)} {tokens : List Token}
    (named : builder.Named) (tags : ∀ token ∈ tokens, token.Named)
    (read : Builder.run context depth floor inside tokens builder = some after) : after.Named := by
  -- What an entity stands for is run one level deeper, with the same elements around it.
  induction depth generalizing floor inside tokens builder after with
  | zero =>
    rw [Builder.run] at read
    refine foldlM_option_keeps (fun builder token after mem read named => ?_) read named
    exact named.step (by rintro _ _ _ - ⟨⟩) (tags token mem) read
  | succ depth ih =>
    rw [Builder.run] at read
    refine foldlM_option_keeps (fun builder token after mem read named => ?_) read named
    refine named.step ?_ (tags token mem) read
    intro builder name after named replaced
    dsimp only at replaced
    split at replaced
    · next text _ =>
      split at replaced
      · cases replaced
      · split at replaced
        · cases replaced
        · next inner taken =>
          split at replaced
          · next ran =>
            split at replaced
            · cases replaced
              have counted : Builder.Named
                  { builder with replaced := builder.replaced + text.length } :=
                ⟨named.frames, named.root⟩
              exact ih counted (named_of_tokens? taken) ran
            · cases replaced
          · cases replaced
    · cases replaced

end Builder.Named

theorem named_of_readBody {size : Nat} {standalone : Bool} {cs : List Char} {root : Node}
    (read : readBody size standalone cs = some root) : root.Named := by
  unfold readBody at read
  split at read
  · cases read
  · obtain ⟨body, -, read⟩ := Option.bind_eq_some_iff.1 read
    obtain ⟨⟨doctype, rest⟩, -, read⟩ := Option.bind_eq_some_iff.1 read
    obtain ⟨tokens, taken, read⟩ := Option.bind_eq_some_iff.1 read
    obtain ⟨builder, ran, read⟩ := Option.bind_eq_some_iff.1 read
    have nothing : Builder.Named ⟨[], none, 0⟩ := ⟨by simp, by simp⟩
    have named := nothing.run (named_of_tokens? taken) ran
    split at read
    · exact named.root root read
    · cases read

/-- **Every element has a name.** Whatever octets are read as a document, there is no
element in it without a name of the grammar. -/
theorem named_of_parse {octets : Octets} {root : Node} (parsed : parse octets = .ok root) :
    root.Named := by
  unfold parse at parsed
  dsimp only at parsed
  split at parsed
  · obtain ⟨found, -, parsed⟩ := bind_eq_ok.1 parsed
    -- Whether the document names its character set or not, it is the text that is read.
    split at parsed <;>
    · obtain ⟨charset, -, parsed⟩ := bind_eq_ok.1 parsed
      split at parsed
      · cases parsed
      · split at parsed
        · next body =>
          cases parsed
          exact named_of_readBody body
        · cases parsed
  · cases parsed

end CallGraph.Xml
