import CallGraph.Failure
import CallGraph.Jvm.Descriptor
import CallGraph.Proofs.Listing
import CallGraph.Proofs.Uri.Fragment

/-! The grammar of method descriptors. A descriptor puts the names of types one
behind the other without separators. Each name shows where it ends, because array
markers stand in front, a primitive type is one letter, and a class goes up to
its semicolon. So there is one way at most to take a descriptor apart, whatever
else stands in the names of classes, and the scanner finds it. -/
namespace CallGraph.Jvm
open Text Listing

/-! ## Names of types -/

/-- The letters of the primitive types, with the names of these in `java.lang`. -/
def primitives : List (Char × String) := "VZBCSIJFD".toList.zip TypeUri.primitiveNames

theorem primitiveName?_eq_some_iff {letter : Char} {name : String} :
    primitiveName? letter = some name ↔ (letter, name) ∈ primitives := by
  constructor
  · intro known
    unfold primitiveName? at known
    split at known
    all_goals first | (obtain rfl := Option.some.inj known; decide) | cases known
  · have table : ∀ entry ∈ primitives, primitiveName? entry.1 = some entry.2 := by decide
    exact table (letter, name)

/-- The namespace of a package that is given with slashes. A package that is not
given, or has no name, is the unnamed one. -/
def packageName : Option (List Char) → String
  | none | some [] => TypeUri.defaultNamespace
  | some package => String.ofList (package.map fun c => if c = '/' then '.' else c)

theorem packageName_ne (package : Option (List Char)) : packageName package ≠ "" := by
  unfold packageName
  split
  · decide
  · decide
  · next unnamed =>
    intro empty
    have nothing := congrArg String.toList empty
    rw [String.toList_ofList] at nothing
    exact unnamed (List.map_eq_nil_iff.1 nothing)

/-- What stands between `L` and `;`. The simple name is what stands behind the last
slash, and the package is what stands in front of it. -/
structure ClassPath where
  package : Option (List Char)
  simple : List Char
  package_free : ';' ∉ package.getD []
  simple_ne : simple ≠ []
  simple_free : ∀ c ∈ simple, c ≠ '.' ∧ c ≠ '[' ∧ c ≠ ']' ∧ c ≠ '/' ∧ c ≠ ';'

/-- A simple name behind its package. -/
def withPackage : Option (List Char) → List Char → List Char
  | none, simple => simple
  | some package, simple => package ++ '/' :: simple

/-- Every text is a simple name, possibly behind a package. -/
theorem exists_withPackage (cs : List Char) :
    ∃ package simple, cs = withPackage package simple ∧ '/' ∉ simple := by
  by_cases mem : '/' ∈ cs
  · obtain ⟨back, front, whole, free⟩ := List.eq_append_cons_of_mem (List.mem_reverse.2 mem)
    refine ⟨some front.reverse, back.reverse, ?_, by simpa using free⟩
    have turned := congrArg List.reverse whole
    simpa [withPackage] using turned
  · exact ⟨none, cs, rfl, mem⟩

theorem cutLast?_withPackage {simple : List Char} (free : '/' ∉ simple)
    (package : Option (List Char)) :
    cutLast? '/' (withPackage package simple) = package.map fun front => (front, simple) := by
  cases package with
  | none => exact cutLast?_of_free free
  | some front => exact cutLast?_append free

theorem classType_withPackage {simple : List Char} (free : '/' ∉ simple)
    (package : Option (List Char)) (dims : Nat) : classType (withPackage package simple) dims =
      typeOf (packageName package) (String.ofList simple) dims := by
  rw [classType, cutLast?_withPackage free]
  match package with
  | none => rfl
  | some [] => rfl
  | some (c :: front) =>
    have dotted : replaceChar '/' ['.'] (c :: front) =
        (c :: front).map fun c => if c = '/' then '.' else c := by
      rw [replaceChar, ← List.flatMap_pure_eq_map]
      refine List.flatMap_congr fun c _ => ?_
      by_cases slash : c = '/' <;> simp [slash]
    show typeOf (String.ofList (replaceChar '/' ['.'] (c :: front))) _ _ = _
    rw [dotted]
    rfl

theorem typeOf_eq_ok_iff {ns name : String} (nsNe : ns ≠ "") {dims : Nat} {type : TypeUri} :
    typeOf ns name dims = .ok type ↔
      ∃ nameOk : isTypeName name = true, type = ⟨ns, name, dims, nsNe, nameOk⟩ := by
  rw [typeOf, mapError_eq_ok]
  constructor
  · intro made
    obtain ⟨rfl, rfl, sameDims⟩ := TypeUri.parts_of_make made
    obtain rfl : type.dims = dims := by omega
    exact ⟨type.name_ok, rfl⟩
  · rintro ⟨nameOk, rfl⟩
    exact TypeUri.make_ok nsNe nameOk dims

namespace ClassPath

variable (path : ClassPath)

def chars : List Char := withPackage path.package path.simple

theorem noSlash : '/' ∉ path.simple := fun mem => (path.simple_free _ mem).2.2.2.1 rfl

theorem isTypeName_simple : isTypeName (String.ofList path.simple) = true := by
  refine isTypeName_iff.2 ⟨fun empty => path.simple_ne ?_, fun c mem => ?_⟩
  · simpa using congrArg String.toList empty
  · rw [String.toList_ofList] at mem
    obtain ⟨noDot, noOpen, noClose, -⟩ := path.simple_free c mem
    exact ⟨noDot, noOpen, noClose⟩

/-- The type that has elements of the class and so many dimensions. -/
def typeUri (dims : Nat) : TypeUri :=
  ⟨packageName path.package, String.ofList path.simple, dims, packageName_ne path.package,
    path.isTypeName_simple⟩

/-- A class ends at the first semicolon. -/
theorem unended : ';' ∉ path.chars := by
  have simple : ';' ∉ path.simple := fun mem => (path.simple_free _ mem).2.2.2.2 rfl
  have package := path.package_free
  rw [chars]
  cases given : path.package with
  | none => exact simple
  | some front =>
    rw [given] at package
    simpa [withPackage, simple] using package

theorem chars_injective : Function.Injective chars := by
  intro a b same
  have cut := congrArg (cutLast? '/') same
  rw [chars, cutLast?_withPackage a.noSlash, chars, cutLast?_withPackage b.noSlash] at cut
  obtain ⟨packageA, simpleA, _, _, _⟩ := a
  obtain ⟨packageB, simpleB, _, _, _⟩ := b
  cases packageA <;> cases packageB <;> simp_all [chars, withPackage]

end ClassPath

/-- Of all texts without a semicolon, the paths of classes are those that are
read as types. -/
theorem classType_eq_ok_iff {cs : List Char} (unended : ';' ∉ cs) {dims : Nat} {type : TypeUri} :
    classType cs dims = .ok type ↔
      ∃ path : ClassPath, path.chars = cs ∧ path.typeUri dims = type := by
  constructor
  · intro read
    obtain ⟨package, simple, rfl, noSlash⟩ := exists_withPackage cs
    rw [classType_withPackage noSlash, typeOf_eq_ok_iff (packageName_ne package)] at read
    obtain ⟨nameOk, rfl⟩ := read
    have allowed := isTypeName_iff.1 nameOk
    rw [String.toList_ofList] at allowed
    have parts : ';' ∉ package.getD [] ∧ ';' ∉ simple := by
      cases package <;> simp_all [withPackage]
    refine ⟨⟨package, simple, parts.1, fun empty => allowed.1 (by rw [empty]), ?_⟩, rfl, rfl⟩
    intro c mem
    obtain ⟨noDot, noOpen, noClose⟩ := allowed.2 c mem
    exact ⟨noDot, noOpen, noClose, fun same => noSlash (same ▸ mem), fun same => parts.2 (same ▸ mem)⟩
  · rintro ⟨path, rfl, rfl⟩
    rw [ClassPath.chars, classType_withPackage path.noSlash, typeOf_eq_ok_iff (packageName_ne _)]
    exact ⟨path.isTypeName_simple, rfl⟩

/-- What array markers stand in front of. -/
inductive ElementName where
  | primitive (letter : Char) (name : String) (known : (letter, name) ∈ primitives)
  | reference (path : ClassPath)

def ElementName.chars : ElementName → List Char
  | .primitive letter _ _ => [letter]
  | .reference path => 'L' :: (path.chars ++ [';'])

/-- The name of a type in a descriptor. -/
structure TypeName where
  /-- The number of array markers. -/
  dims : Nat
  element : ElementName

theorem javaLang_ne : TypeUri.javaLang ≠ "" := by decide

theorem isTypeName_primitive {letter : Char} {name : String} (known : (letter, name) ∈ primitives) :
    isTypeName name = true := by
  have table : ∀ entry ∈ primitives, isTypeName entry.2 = true := by decide
  exact table _ known

namespace TypeName

def chars (name : TypeName) : List Char := List.replicate name.dims '[' ++ name.element.chars

/-- The type that is meant. -/
def typeUri : TypeName → TypeUri
  | ⟨dims, .primitive _ name known⟩ =>
    ⟨TypeUri.javaLang, name, dims, javaLang_ne, isTypeName_primitive known⟩
  | ⟨dims, .reference path⟩ => path.typeUri dims

end TypeName

/-! ## One name -/

/-- Every text is made of array markers and what they stand in front of. -/
theorem exists_markers (cs : List Char) : ∃ dims rest, cs = List.replicate dims '[' ++ rest ∧
    ∀ more, rest ≠ '[' :: more := by
  induction cs with
  | nil => exact ⟨0, [], rfl, by simp⟩
  | cons c cs ih =>
    by_cases marker : c = '['
    · obtain ⟨dims, rest, rfl, unmarked⟩ := ih
      exact ⟨dims + 1, rest, by rw [marker, List.replicate_succ, List.cons_append], unmarked⟩
    · exact ⟨0, c :: cs, rfl, fun more same => marker (List.cons.inj same).1⟩

theorem markers_append {rest : List Char} (unmarked : ∀ more, rest ≠ '[' :: more) (dims : Nat) :
    (List.replicate dims '[' ++ rest).takeWhile (· == '[') = List.replicate dims '[' ∧
      (List.replicate dims '[' ++ rest).dropWhile (· == '[') = rest := by
  induction dims with
  | zero =>
    cases rest with
    | nil => exact ⟨rfl, rfl⟩
    | cons c rest =>
      have noMarker : c ≠ '[' := fun same => unmarked rest (same ▸ rfl)
      simp [noMarker]
  | succ dims ih => simpa [List.replicate_succ] using ih

/-- A text that ends where an element is seen to end, whether or not it is one. -/
inductive Bare : List Char → Prop
  | letter {c : Char} (noMarker : c ≠ '[') (noClass : c ≠ 'L') : Bare [c]
  | reference {path : List Char} (unended : ';' ∉ path) : Bare ('L' :: (path ++ [';']))

theorem Bare.unmarked {element : List Char} (bare : Bare element) (rest more : List Char) :
    element ++ rest ≠ '[' :: more := by
  cases bare with
  | letter noMarker => exact fun same => noMarker (List.cons.inj same).1
  | reference => exact fun same => absurd (List.cons.inj same).1 (by decide)

/-- A text is cut where its first element ends. -/
theorem cutType_eq_ok_iff {descriptor : String} {cs name rest : List Char} :
    cutType descriptor cs = .ok (name, rest) ↔
      ∃ dims element, Bare element ∧ name = List.replicate dims '[' ++ element ∧
        cs = name ++ rest := by
  constructor
  · intro cut
    obtain ⟨dims, behind, rfl, unmarked⟩ := exists_markers cs
    obtain ⟨taken, left⟩ := markers_append unmarked dims
    rw [cutType, taken, left] at cut
    split at cut
    · cases cut
    · split at cut
      · cases cut
      · next path after found =>
        obtain ⟨rfl, rfl⟩ := Prod.mk.inj (Except.ok.inj cut)
        obtain ⟨rfl, unended⟩ := cutFirst?_eq_some found
        exact ⟨dims, _, .reference unended, by simp, by simp⟩
    · next letter after noClass =>
      obtain ⟨rfl, rfl⟩ := Prod.mk.inj (Except.ok.inj cut)
      have noMarker : letter ≠ '[' := fun same => unmarked after (same ▸ rfl)
      exact ⟨dims, _, .letter noMarker noClass, rfl, by simp⟩
  · rintro ⟨dims, element, bare, rfl, rfl⟩
    rw [List.append_assoc]
    obtain ⟨taken, left⟩ := markers_append (bare.unmarked rest) dims
    rw [cutType, taken, left]
    cases bare with
    | letter noMarker noClass => simp
    | reference unended => simp [cutFirst?_append unended]

theorem ElementName.bare (element : ElementName) : Bare element.chars := by
  cases element with
  | primitive letter name known =>
    have table : ∀ entry ∈ primitives, entry.1 ≠ '[' ∧ entry.1 ≠ 'L' := by decide
    obtain ⟨noMarker, noClass⟩ := table _ known
    exact .letter noMarker noClass
  | reference path => exact .reference path.unended

theorem elementType_letter (whole : String) (dims : Nat) (letter : Char) :
    elementType whole dims [letter] = match primitiveName? letter with
      | some name => typeOf TypeUri.javaLang name dims
      | none => .error (.unrecognizedType whole) :=
  rfl

/-- The text of a class, with or without the semicolon at its end, is read as a class. -/
theorem elementType_class {path : List Char} (nonempty : path ≠ []) (whole : String) (dims : Nat) :
    elementType whole dims ('L' :: path) = classType ((beforeEnd? [';'] path).getD path) dims := by
  cases path with
  | nil => contradiction
  | cons c rest => rfl

theorem elementType_reference (whole : String) (dims : Nat) (path : List Char) :
    elementType whole dims ('L' :: (path ++ [';'])) = classType path dims := by
  rw [elementType_class (by simp), beforeEnd?_append, Option.getD_some]

/-- Of all texts that end as elements do, the elements are those that are read. -/
theorem elementType_eq_ok_iff {whole : String} {cs : List Char} (bare : Bare cs) {dims : Nat}
    {type : TypeUri} : elementType whole dims cs = .ok type ↔
      ∃ element : ElementName, element.chars = cs ∧ TypeName.typeUri ⟨dims, element⟩ = type := by
  cases bare with
  | letter noMarker noClass =>
    next c =>
    rw [elementType_letter]
    constructor
    · intro read
      split at read
      · next name known =>
        obtain ⟨-, rfl⟩ := (typeOf_eq_ok_iff javaLang_ne).1 read
        exact ⟨.primitive c name (primitiveName?_eq_some_iff.1 known), rfl, rfl⟩
      · cases read
    · rintro ⟨element, same, rfl⟩
      cases element with
      | primitive letter name known =>
        obtain rfl : letter = c := (List.cons.inj same).1
        rw [primitiveName?_eq_some_iff.2 known]
        exact (typeOf_eq_ok_iff javaLang_ne).2 ⟨_, rfl⟩
      | reference path => exact absurd (List.cons.inj same).1.symm noClass
  | reference unended =>
    next path =>
    rw [elementType_reference, classType_eq_ok_iff unended]
    constructor
    · rintro ⟨path, rfl, rfl⟩
      exact ⟨.reference path, rfl, rfl⟩
    · rintro ⟨element, same, rfl⟩
      cases element with
      | primitive letter name known => simp [ElementName.chars] at same
      | reference path' =>
        refine ⟨path', ?_, rfl⟩
        simpa [ElementName.chars] using same

/-- Behind its markers, a name is read as the element. -/
theorem typeOfName_markers {element : List Char} (bare : Bare element) (dims : Nat) :
    typeOfName (String.ofList (List.replicate dims '[' ++ element)) =
      elementType (String.ofList (List.replicate dims '[' ++ element)) dims element := by
  have unmarked := bare.unmarked []
  rw [List.append_nil] at unmarked
  obtain ⟨taken, left⟩ := markers_append unmarked dims
  rw [typeOfName, String.toList_ofList, taken, left, List.length_replicate]

theorem typeOfName_eq_ok_iff {element : List Char} (bare : Bare element) {dims : Nat}
    {type : TypeUri} :
    typeOfName (String.ofList (List.replicate dims '[' ++ element)) = .ok type ↔
      ∃ name : ElementName, name.chars = element ∧ TypeName.typeUri ⟨dims, name⟩ = type := by
  rw [typeOfName_markers bare, elementType_eq_ok_iff bare]

/-- A type is read exactly from a text that starts with the name of the type. -/
theorem readType_eq_ok_iff {descriptor : String} {cs rest : List Char} {type : TypeUri} :
    readType descriptor cs = .ok (type, rest) ↔
      ∃ name : TypeName, cs = name.chars ++ rest ∧ name.typeUri = type := by
  constructor
  · intro read
    obtain ⟨⟨chars, after⟩, cut, read⟩ := bind_eq_ok.1 read
    obtain ⟨type', named, same⟩ := bind_eq_ok.1 read
    obtain ⟨rfl, rfl⟩ := Prod.mk.inj (Except.ok.inj same)
    obtain ⟨dims, bareName, bare, rfl, rfl⟩ := cutType_eq_ok_iff.1 cut
    obtain ⟨element, rfl, rfl⟩ := (typeOfName_eq_ok_iff bare).1 named
    exact ⟨⟨dims, element⟩, rfl, rfl⟩
  · rintro ⟨⟨dims, element⟩, rfl, rfl⟩
    have bare := element.bare
    have cut : cutType descriptor (TypeName.chars ⟨dims, element⟩ ++ rest) = .ok (_, rest) :=
      cutType_eq_ok_iff.2 ⟨dims, _, bare, rfl, rfl⟩
    have named : typeOfName (String.ofList (TypeName.chars ⟨dims, element⟩)) =
        .ok (TypeName.typeUri ⟨dims, element⟩) := (typeOfName_eq_ok_iff bare).2 ⟨element, rfl, rfl⟩
    exact bind_eq_ok.2 ⟨_, cut, bind_eq_ok.2 ⟨_, named, rfl⟩⟩

theorem ElementName.chars_injective : Function.Injective ElementName.chars := by
  intro a b same
  cases a with
  | primitive letter name known =>
    cases b with
    | primitive letter' name' known' =>
      obtain rfl : letter = letter' := (List.cons.inj same).1
      have sameName := (primitiveName?_eq_some_iff.2 known).symm.trans
        (primitiveName?_eq_some_iff.2 known')
      obtain rfl := Option.some.inj sameName
      rfl
    | reference path => simp [chars] at same
  | reference path =>
    cases b with
    | primitive letter name known => simp [chars] at same
    | reference path' =>
      have samePath : path.chars = path'.chars := by simpa [chars] using same
      rw [ClassPath.chars_injective samePath]

namespace TypeName

/-- A name does not start like the end of a list of parameters. -/
theorem exists_cons (name : TypeName) : ∃ c cs, name.chars = c :: cs ∧ c ≠ ')' := by
  obtain ⟨dims, element⟩ := name
  cases dims with
  | succ dims => exact ⟨'[', _, rfl, by decide⟩
  | zero =>
    cases element with
    | primitive letter name known =>
      have table : ∀ entry ∈ primitives, entry.1 ≠ ')' := by decide
      exact ⟨letter, [], rfl, table _ known⟩
    | reference path => exact ⟨'L', _, rfl, by decide⟩

/-- It is seen from a name where it ends. -/
theorem eq_of_append {a b : TypeName} {rest rest' : List Char}
    (same : a.chars ++ rest = b.chars ++ rest') : a = b ∧ rest = rest' := by
  have cutA : cutType "" (a.chars ++ rest) = .ok (a.chars, rest) :=
    cutType_eq_ok_iff.2 ⟨_, _, a.element.bare, rfl, rfl⟩
  have cutB : cutType "" (b.chars ++ rest') = .ok (b.chars, rest') :=
    cutType_eq_ok_iff.2 ⟨_, _, b.element.bare, rfl, rfl⟩
  rw [same, cutB] at cutA
  obtain ⟨sameChars, rfl⟩ := Prod.mk.inj (Except.ok.inj cutA)
  refine ⟨?_, rfl⟩
  have unmarked : ∀ (name : TypeName) more, name.element.chars ≠ '[' :: more := fun name => by
    simpa using name.element.bare.unmarked []
  obtain ⟨takenA, leftA⟩ := markers_append (unmarked a) a.dims
  obtain ⟨takenB, leftB⟩ := markers_append (unmarked b) b.dims
  have sameMarkers : List.replicate a.dims '[' = List.replicate b.dims '[' := by
    rw [← takenA, ← takenB, ← chars, ← chars, sameChars]
  have sameElement : a.element.chars = b.element.chars := by
    rw [← leftA, ← leftB, ← chars, ← chars, sameChars]
  have sameDims : a.dims = b.dims := by simpa using congrArg List.length sameMarkers
  cases a
  cases b
  rw [TypeName.mk.injEq]
  exact ⟨sameDims, ElementName.chars_injective sameElement⟩

end TypeName

/-! ## The list of parameters -/

/-- The loop over the parameters, with no bound on how often it goes round. It comes
to what was read and what is left of the text, or to a defect. -/
inductive Scan (descriptor : String) : List Char → Except Defect (List TypeUri × List Char) → Prop
  | exhausted : Scan descriptor [] (.error (.unbalanced descriptor))
  | closed (rest : List Char) : Scan descriptor (')' :: rest) (.ok ([], rest))
  | refused {c : Char} {cs : List Char} {defect : Defect} (inside : c ≠ ')')
      (failed : readType descriptor (c :: cs) = .error defect) :
      Scan descriptor (c :: cs) (.error defect)
  | next {c : Char} {cs after : List Char} {type : TypeUri}
      {outcome : Except Defect (List TypeUri × List Char)} (inside : c ≠ ')')
      (read : readType descriptor (c :: cs) = .ok (type, after))
      (later : Scan descriptor after outcome) :
      Scan descriptor (c :: cs) (outcome.map fun found => (type :: found.1, found.2))

variable {descriptor : String} {cs rest : List Char}

theorem readParams_cons {c : Char} (inside : c ≠ ')') (fuel : Nat) :
    readParams descriptor (fuel + 1) (c :: cs) = (readType descriptor (c :: cs)).bind fun first =>
      (readParams descriptor fuel first.2).map fun found => (first.1 :: found.1, found.2) := by
  have step : readParams descriptor (fuel + 1) (c :: cs) =
      (readType descriptor (c :: cs) >>= fun first => readParams descriptor fuel first.2 >>=
        fun found => pure (first.1 :: found.1, found.2)) := by
    simp [readParams, inside]
  rw [step]
  cases readType descriptor (c :: cs) with
  | error defect => rfl
  | ok first =>
    show (readParams descriptor fuel first.2 >>= _) = Except.map _ (readParams descriptor fuel first.2)
    cases readParams descriptor fuel first.2 <;> rfl

/-- Every type takes a character, so the loop ends before the fuel does. -/
theorem scan_readParams {fuel : Nat} (enough : cs.length ≤ fuel) :
    Scan descriptor cs (readParams descriptor fuel cs) := by
  induction fuel generalizing cs with
  | zero =>
    obtain rfl := List.length_eq_zero_iff.1 (Nat.le_zero.1 enough)
    exact .exhausted
  | succ fuel ih =>
    cases cs with
    | nil => exact .exhausted
    | cons c cs =>
      by_cases close : c = ')'
      · rw [close]
        exact .closed cs
      · rw [readParams_cons close]
        cases read : readType descriptor (c :: cs) with
        | error defect => exact .refused close read
        | ok first =>
          obtain ⟨name, whole, -⟩ := readType_eq_ok_iff.1 read
          obtain ⟨_, _, start, -⟩ := name.exists_cons
          have shorter : first.2.length < (c :: cs).length := by
            rw [whole, start, List.cons_append, List.length_cons, List.length_append]
            omega
          exact .next close read (ih (by omega))

namespace Scan

variable {outcome outcome' : Except Defect (List TypeUri × List Char)}

theorem unique (first : Scan descriptor cs outcome) (second : Scan descriptor cs outcome') :
    outcome = outcome' := by
  induction first generalizing outcome' with
  | exhausted =>
    cases second
    rfl
  | closed rest =>
    cases second with
    | closed => rfl
    | refused inside => contradiction
    | next inside => contradiction
  | refused inside failed =>
    cases second with
    | closed => contradiction
    | refused _ failed' =>
      obtain rfl := Except.error.inj (failed.symm.trans failed')
      rfl
    | next _ read => cases failed.symm.trans read
  | next inside read later ih =>
    cases second with
    | closed => contradiction
    | refused _ failed => cases failed.symm.trans read
    | next _ read' later' =>
      obtain ⟨rfl, rfl⟩ := Prod.mk.inj (Except.ok.inj (read.symm.trans read'))
      rw [ih later']

/-- The loop comes to an end in the parenthesis behind a list of names, and has
read these. -/
theorem ok_iff {types : List TypeUri} : Scan descriptor cs (.ok (types, rest)) ↔
    ∃ params : List TypeName, cs = params.flatMap TypeName.chars ++ ')' :: rest ∧
      params.map TypeName.typeUri = types := by
  constructor
  · intro scan
    generalize done : Except.ok (types, rest) = outcome at scan
    induction scan generalizing types with
    | exhausted => cases done
    | closed =>
      obtain ⟨rfl, rfl⟩ := Prod.mk.inj (Except.ok.inj done)
      exact ⟨[], rfl, rfl⟩
    | refused => cases done
    | @next _ _ _ _ outcome _ read _ ih =>
      cases outcome with
      | error defect => cases done
      | ok found =>
        obtain ⟨rfl, rfl⟩ := Prod.mk.inj (Except.ok.inj done)
        obtain ⟨name, whole, rfl⟩ := readType_eq_ok_iff.1 read
        obtain ⟨params, rfl, same⟩ := ih rfl
        exact ⟨name :: params, by simp [whole], by simp [same]⟩
  · rintro ⟨params, rfl, rfl⟩
    induction params with
    | nil => exact .closed rest
    | cons name params ih =>
      obtain ⟨c, inner, start, inside⟩ := name.exists_cons
      have read : readType descriptor
          (c :: (inner ++ (params.flatMap TypeName.chars ++ ')' :: rest))) = .ok (name.typeUri, _) :=
        readType_eq_ok_iff.2 ⟨name, by rw [start, List.cons_append], rfl⟩
      rw [List.flatMap_cons, start, List.append_assoc, List.cons_append]
      exact .next inside read ih

end Scan

theorem readParams_eq_iff {outcome : Except Defect (List TypeUri × List Char)} :
    readParams descriptor cs.length cs = outcome ↔ Scan descriptor cs outcome := by
  constructor
  · rintro rfl
    exact scan_readParams le_rfl
  · exact (scan_readParams le_rfl).unique

/-- The loop's list of names is the only one. -/
theorem params_eq_of_append {as bs : List TypeName} {rest' : List Char}
    (same : as.flatMap TypeName.chars ++ ')' :: rest = bs.flatMap TypeName.chars ++ ')' :: rest') :
    as = bs ∧ rest = rest' := by
  induction as generalizing bs with
  | nil =>
    cases bs with
    | nil => exact ⟨rfl, (List.cons.inj same).2⟩
    | cons name bs =>
      obtain ⟨c, inner, start, inside⟩ := name.exists_cons
      simp [start, Ne.symm inside] at same
  | cons name as ih =>
    cases bs with
    | nil =>
      obtain ⟨c, inner, start, inside⟩ := name.exists_cons
      simp [start, inside] at same
    | cons name' bs =>
      rw [List.flatMap_cons, List.flatMap_cons, List.append_assoc, List.append_assoc] at same
      obtain ⟨rfl, later⟩ := TypeName.eq_of_append same
      obtain ⟨rfl, rfl⟩ := ih later
      exact ⟨rfl, rfl⟩

/-! ## Descriptors -/

/-- The names that a descriptor is made of. -/
structure DescriptorNames where
  params : List TypeName
  ret : TypeName

namespace DescriptorNames

def text (names : DescriptorNames) : String :=
  String.ofList ('(' :: (names.params.flatMap TypeName.chars ++ ')' :: names.ret.chars))

theorem text_injective : Function.Injective text := by
  intro a b same
  have behind := (List.cons.inj (String.ofList_injective same)).2
  obtain ⟨sameParams, sameRet⟩ := params_eq_of_append behind
  rw [← List.append_nil a.ret.chars, ← List.append_nil b.ret.chars] at sameRet
  obtain ⟨sameRet, -⟩ := TypeName.eq_of_append sameRet
  cases a
  cases b
  rw [DescriptorNames.mk.injEq]
  exact ⟨sameParams, sameRet⟩

end DescriptorNames

theorem parseDescriptor_eq_ok_iff {params : List TypeUri} {ret : TypeUri} :
    parseDescriptor descriptor = .ok (params, ret) ↔ ∃ names : DescriptorNames,
      names.text = descriptor ∧ names.params.map TypeName.typeUri = params ∧
        names.ret.typeUri = ret := by
  constructor
  · intro read
    unfold parseDescriptor at read
    split at read
    · next cs start =>
      obtain ⟨⟨types, behind⟩, scanned, read⟩ := bind_eq_ok.1 read
      obtain ⟨⟨type, left⟩, last, read⟩ := bind_eq_ok.1 read
      dsimp only at read
      split at read
      · next ended =>
        obtain ⟨rfl, rfl⟩ := Prod.mk.inj (Except.ok.inj read)
        obtain ⟨names, rfl, rfl⟩ := Scan.ok_iff.1 (readParams_eq_iff.1 scanned)
        obtain ⟨name, rfl, rfl⟩ := readType_eq_ok_iff.1 last
        refine ⟨⟨names, name⟩, ?_, rfl, rfl⟩
        rw [List.isEmpty_iff.1 ended, List.append_nil] at start
        rw [DescriptorNames.text, ← start, String.ofList_toList]
      · cases read
    · cases read
  · rintro ⟨names, rfl, rfl, rfl⟩
    rw [parseDescriptor, DescriptorNames.text, String.toList_ofList]
    refine bind_eq_ok.2 ⟨_, readParams_eq_iff.2 (Scan.ok_iff.2 ⟨_, rfl, rfl⟩), ?_⟩
    exact bind_eq_ok.2 ⟨(_, []), readType_eq_ok_iff.2 ⟨names.ret, by simp, rfl⟩, rfl⟩

/-- **The grammar of descriptors.** A descriptor is read exactly if it is, in one
way, the names of parameters between parentheses and the name of a result; what is
read are the types that are meant, in order. Any other text is refused as malformed.
The loop over the parameters ends by itself, with what the reader goes on with. -/
theorem parseDescriptor_grammar (descriptor : String) :
    ((∃ types, parseDescriptor descriptor = .ok types) ↔
      ∃! names : DescriptorNames, names.text = descriptor) ∧
    (∀ params ret, parseDescriptor descriptor = .ok (params, ret) ↔
      ∃ names : DescriptorNames, names.text = descriptor ∧
        names.params.map TypeName.typeUri = params ∧ names.ret.typeUri = ret) ∧
    ((¬ ∃ names : DescriptorNames, names.text = descriptor) ↔
      ∃ defect, parseDescriptor descriptor = .error defect ∧
        ((Failure.jvm defect).kindName = "MalformedInput" ∨
          (Failure.jvm defect).kindName = "FormatError")) ∧
    ∀ cs outcome, Scan descriptor cs outcome ↔ readParams descriptor cs.length cs = outcome := by
  have formed : (∃ types, parseDescriptor descriptor = .ok types) ↔
      ∃ names : DescriptorNames, names.text = descriptor := by
    simp only [Prod.exists, parseDescriptor_eq_ok_iff]
    constructor
    · rintro ⟨_, _, names, written, -, -⟩
      exact ⟨names, written⟩
    · rintro ⟨names, written⟩
      exact ⟨_, _, names, written, rfl, rfl⟩
  refine ⟨?_, fun _ _ => parseDescriptor_eq_ok_iff, ?_, fun _ _ => readParams_eq_iff.symm⟩
  · rw [formed]
    constructor
    · rintro ⟨names, rfl⟩
      exact ⟨names, rfl, fun other same => DescriptorNames.text_injective same⟩
    · rintro ⟨names, written, -⟩
      exact ⟨names, written⟩
  · rw [← formed]
    cases read : parseDescriptor descriptor with
    | ok types => simp
    | error defect =>
      have kinds : (Failure.jvm defect).kindName = "MalformedInput" ∨
          (Failure.jvm defect).kindName = "FormatError" := by
        cases defect with
        | uri => exact .inr rfl
        | _ => exact .inl rfl
      simpa using kinds

/-- Parentheses and letters of primitive types may stand in the names of classes. -/
example : (parseDescriptor "([[La)V/b;IL(/)C;)[J").map (fun (params, ret) =>
    (params.map (fun type => (type.ns, type.name, type.dims)), ret.dims)) =
      .ok ([("a)V", "b", 2), ("java.lang", "IntType", 0), ("(", ")C", 0)], 1) := by
  decide +kernel

end CallGraph.Jvm
