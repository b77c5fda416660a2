import CallGraph.Proofs.Jvm.Grammar
import CallGraph.Proofs.Text.Cut
import CallGraph.Proofs.Uri.RoundTrip

/-! What class files say of a method, and how much of it its URI keeps. A class
file refers to a method by a class, a name and a descriptor, and each of these
is put together from segments without separators. Three pairs of spellings have
one URI: a constructor and a method with the name of its class, the unnamed
package and a package that is called `(default)`, and a primitive type and the
class in `java.lang` that stands for it. Nothing else is lost. -/
namespace CallGraph.Jvm
open Text Listing

/-! The grammar of class files. -/

/-- A name between the slashes of the name of a class. -/
def isSegment (name : String) : Bool :=
  !name.toList.isEmpty && name.toList.all fun c => c != '.' && c != ';' && c != '[' && c != '/'

theorem isSegment_iff {name : String} : isSegment name = true ↔
    name ≠ "" ∧ ∀ c ∈ name.toList, c ≠ '.' ∧ c ≠ ';' ∧ c ≠ '[' ∧ c ≠ '/' := by
  simp [isSegment, and_assoc]

def Segment : Type := { name : String // isSegment name = true }
deriving DecidableEq

namespace Segment

def chars (segment : Segment) : List Char := segment.val.toList

theorem chars_ne_nil (segment : Segment) : segment.chars ≠ [] :=
  toList_ne_nil (isSegment_iff.1 segment.property).1

/-- No separator of class names, descriptors or namespaces stands in a segment. -/
theorem chars_free (segment : Segment) {c : Char}
    (separator : c = '.' ∨ c = ';' ∨ c = '[' ∨ c = '/') : c ∉ segment.chars := by
  intro mem
  obtain ⟨noDot, noEnd, noArray, noSlash⟩ := (isSegment_iff.1 segment.property).2 c mem
  rcases separator with rfl | rfl | rfl | rfl <;> contradiction

theorem chars_injective : Function.Injective chars := by
  intro a b same
  exact Subtype.ext (String.toList_injective same)

/-- The segment that is also the namespace of the unnamed package. -/
def default : Segment := ⟨TypeUri.defaultNamespace, by decide⟩

end Segment

/-- A class: the segments of its package, which is unnamed where there are
none, and its simple name. -/
structure ClassName where
  package : List Segment
  simple : Segment
deriving DecidableEq

namespace ClassName

def path (name : ClassName) : List Char :=
  ['/'].intercalate ((name.package ++ [name.simple]).map Segment.chars)

/-- The class as the declarer of a method. -/
def text (name : ClassName) : String := String.ofList ('L' :: name.path)

/-- The class in the package `(default)`, if it is in the unnamed one. -/
def merged (name : ClassName) : ClassName :=
  { name with package := if name.package = [] then [Segment.default] else name.package }

theorem merged_of_named {name : ClassName} (named : name.package ≠ []) : name.merged = name := by
  rw [merged, if_neg named]

theorem package_merged_ne (name : ClassName) : name.merged.package ≠ [] := by
  by_cases unnamed : name.package = []
  · simp [merged, unnamed]
  · rwa [merged_of_named unnamed]

@[simp] theorem merged_merged (name : ClassName) : name.merged.merged = name.merged :=
  merged_of_named name.package_merged_ne

/-- The package in URIs. -/
def ns (name : ClassName) : String :=
  String.ofList (['.'].intercalate (name.merged.package.map Segment.chars))

/-- The type that has elements of the class and so many dimensions. -/
def type (name : ClassName) (dims : Nat) : Except Defect TypeUri :=
  typeOf name.ns name.simple.val dims

theorem path_free (name : ClassName) {c : Char} (separator : c = '.' ∨ c = ';' ∨ c = '[') :
    c ∉ name.path := by
  have noSlash : c ≠ '/' := by rcases separator with rfl | rfl | rfl <;> decide
  rw [path, mem_intercalate noSlash]
  rintro ⟨piece, mem, inside⟩
  obtain ⟨segment, -, rfl⟩ := List.mem_map.1 mem
  exact segment.chars_free (by tauto) inside

theorem path_unnamed {name : ClassName} (unnamed : name.package = []) :
    name.path = name.simple.chars := by
  simp [path, unnamed]

theorem path_named {name : ClassName} (named : name.package ≠ []) : name.path =
    ['/'].intercalate (name.package.map Segment.chars) ++ '/' :: name.simple.chars := by
  rw [path, List.map_append]
  exact intercalate_concat (by simpa using named) _

theorem intercalate_package_ne_nil {package : List Segment} (named : package ≠ []) (sep : Char) :
    [sep].intercalate (package.map Segment.chars) ≠ [] := by
  cases package with
  | nil => contradiction
  | cons first rest =>
    have some := first.chars_ne_nil
    cases rest with
    | nil => simpa using some
    | cons next more => simp [some]

theorem path_ne_nil (name : ClassName) : name.path ≠ [] :=
  intercalate_package_ne_nil (by simp) '/'

/-- The path of a class stands for the class and for no other type. -/
theorem classType_path (name : ClassName) (dims : Nat) :
    classType name.path dims = name.type dims := by
  have noSlash : '/' ∉ name.simple.chars := name.simple.chars_free (by tauto)
  rw [classType, type, ns]
  by_cases unnamed : name.package = []
  · have written : String.ofList (['.'].intercalate ([Segment.default].map Segment.chars)) =
        TypeUri.defaultNamespace := by decide
    simp only [path_unnamed unnamed, cutLast?_of_free noSlash, merged, if_pos unnamed, written]
    rw [Segment.chars, String.ofList_toList]
  · have noSlashes : ∀ piece ∈ name.package.map Segment.chars, '/' ∉ piece := by
      intro piece mem
      obtain ⟨segment, -, rfl⟩ := List.mem_map.1 mem
      exact segment.chars_free (by tauto)
    rw [path_named unnamed, cutLast?_append noSlash, merged_of_named unnamed]
    cases package : ['/'].intercalate (name.package.map Segment.chars) with
    | nil => exact absurd package (intercalate_package_ne_nil unnamed '/')
    | cons c rest =>
      simp only [← package, replaceChar_intercalate noSlashes, Segment.chars, String.ofList_toList]

/-- Classes with one namespace and one simple name differ only in what the
unnamed package is called. -/
theorem merged_eq_of_ns {a b : ClassName} (sameNs : a.ns = b.ns) (sameName : a.simple = b.simple) :
    a.merged = b.merged := by
  have package_ne : ∀ name : ClassName, name.merged.package.map Segment.chars ≠ [] := fun name =>
    mt List.map_eq_nil_iff.1 name.package_merged_ne
  have noDots : ∀ name : ClassName, ∀ piece ∈ name.merged.package.map Segment.chars,
      '.' ∉ piece := by
    intro name piece mem
    obtain ⟨segment, -, rfl⟩ := List.mem_map.1 mem
    exact segment.chars_free (by tauto)
  have joined := congrArg (fields '.') (String.ofList_injective sameNs)
  rw [fields_intercalate (package_ne a) (noDots a), fields_intercalate (package_ne b) (noDots b)]
    at joined
  have samePackage := Segment.chars_injective.list_map joined
  cases a
  cases b
  simp_all [merged]

@[simp] theorem type_merged (name : ClassName) (dims : Nat) :
    name.merged.type dims = name.type dims := by
  rw [type, type, ns, ns, merged_merged, merged]

theorem type_eq_ok {name : ClassName} {dims : Nat} {type : TypeUri}
    (read : name.type dims = .ok type) :
    type.ns = name.ns ∧ type.name = name.simple.val ∧ type.dims = dims := by
  obtain ⟨sameNs, sameName, sameDims⟩ := TypeUri.parts_of_make (mapError_eq_ok.1 read)
  exact ⟨sameNs, sameName, by omega⟩

end ClassName

/-- The letter of a primitive type. -/
def Letter : Type := { letter : Char // (primitiveName? letter).isSome = true }
deriving DecidableEq

theorem isSegment_primitiveName {letter : Char} {name : String}
    (known : primitiveName? letter = some name) : isSegment name = true := by
  have table : ∀ entry ∈ primitives, isSegment entry.2 = true := by decide
  exact table _ (primitiveName?_eq_some_iff.1 known)

/-- The class in `java.lang` that stands for a primitive type. -/
def Letter.className (letter : Letter) : ClassName :=
  ⟨[⟨"java", by decide⟩, ⟨"lang", by decide⟩],
    ⟨(primitiveName? letter.val).get letter.property,
      isSegment_primitiveName (Option.some_get _).symm⟩⟩

theorem Letter.merged_className (letter : Letter) : letter.className.merged = letter.className :=
  ClassName.merged_of_named (by simp [Letter.className])

theorem Letter.known (letter : Letter) :
    primitiveName? letter.val = some letter.className.simple.val := by
  rw [className, Option.some_get]

theorem Letter.ns_className (letter : Letter) : letter.className.ns = TypeUri.javaLang := by
  have package : letter.className.package = [⟨"java", by decide⟩, ⟨"lang", by decide⟩] := rfl
  rw [ClassName.ns, letter.merged_className, package]
  decide

/-- The letters of primitive types are told from everything else that is in a descriptor. -/
theorem Letter.ne (letter : Letter) {c : Char} (other : primitiveName? c = none) :
    letter.val ≠ c := by
  intro same
  have known := letter.property
  rw [same, other] at known
  cases known

/-- A type of a parameter or of a result. -/
inductive FieldType where
  | primitive (letter : Letter)
  | reference (name : ClassName)
  | array (element : FieldType)
deriving DecidableEq

namespace FieldType

def chars : FieldType → List Char
  | .primitive letter => [letter.val]
  | .reference name => 'L' :: name.path ++ [';']
  | .array element => '[' :: element.chars

/-- The type with classes in place of the primitive types. -/
def merged : FieldType → FieldType
  | .primitive letter => .reference letter.className
  | .reference name => .reference name.merged
  | .array element => .array element.merged

def dims : FieldType → Nat
  | .array element => element.dims + 1
  | _ => 0

/-- The class of the elements, and of what is no array the class itself. -/
def className : FieldType → ClassName
  | .primitive letter => letter.className
  | .reference name => name
  | .array element => element.className

/-- What the array markers stand in front of. -/
def bare : FieldType → List Char
  | .array element => element.bare
  | type => type.chars

theorem chars_eq (type : FieldType) : type.chars = List.replicate type.dims '[' ++ type.bare := by
  induction type with
  | primitive letter => rfl
  | reference name => rfl
  | array element ih => rw [chars, ih, dims, bare, List.replicate_succ, List.cons_append]

/-- Behind its array markers a type is a letter or a class. -/
theorem bare_eq (type : FieldType) :
    (∃ letter : Letter, type.bare = [letter.val] ∧ type.className = letter.className) ∨
      type.bare = 'L' :: (type.className.path ++ [';']) := by
  induction type with
  | primitive letter => exact .inl ⟨letter, rfl, rfl⟩
  | reference name => exact .inr rfl
  | array element ih => exact ih

theorem chars_head (type : FieldType) : ∃ c rest, type.chars = c :: rest ∧ c ≠ ')' := by
  cases type with
  | primitive letter => exact ⟨_, _, rfl, letter.ne rfl⟩
  | reference name => exact ⟨'L', _, rfl, by decide⟩
  | array element => exact ⟨'[', _, rfl, by decide⟩

theorem isBare (type : FieldType) : Bare type.bare := by
  rcases type.bare_eq with ⟨letter, bare, -⟩ | bare
  · rw [bare]
    exact .letter (letter.ne rfl) (letter.ne rfl)
  · rw [bare]
    exact .reference (type.className.path_free (by tauto))

/-- The type that a class file means. -/
def type (fieldType : FieldType) : Except Defect TypeUri := fieldType.className.type fieldType.dims

theorem elementType_bare (type : FieldType) (whole : String) (dims : Nat) :
    elementType whole dims type.bare = type.className.type dims := by
  rcases type.bare_eq with ⟨letter, bare, sameClass⟩ | bare
  · rw [bare, sameClass, elementType_letter, letter.known, ClassName.type, letter.ns_className]
  · rw [bare, elementType_reference, ClassName.classType_path]

/-- A type is read from its own text. -/
theorem typeOfName_chars (type : FieldType) :
    typeOfName (String.ofList type.chars) = type.type := by
  rw [chars_eq, typeOfName_markers type.isBare, elementType_bare, FieldType.type]

/-- A type is cut off where its text ends. -/
theorem cutType_chars (type : FieldType) (descriptor : String) (rest : List Char) :
    cutType descriptor (type.chars ++ rest) = .ok (type.chars, rest) :=
  cutType_eq_ok_iff.2 ⟨type.dims, type.bare, type.isBare, type.chars_eq, rfl⟩

theorem readType_chars {fieldType : FieldType} {descriptor : String} {rest left : List Char}
    {type : TypeUri}
    (read : readType descriptor (fieldType.chars ++ rest) = .ok (type, left)) :
    fieldType.type = .ok type ∧ left = rest := by
  rw [readType, cutType_chars] at read
  obtain ⟨type', named, same⟩ := bind_eq_ok.1 (show (typeOfName (String.ofList fieldType.chars) >>=
    fun type => pure (type, rest)) = Except.ok (type, left) from read)
  obtain ⟨rfl, rfl⟩ := Prod.mk.inj (Except.ok.inj same)
  exact ⟨(fieldType.typeOfName_chars).symm.trans named, rfl⟩

theorem merged_eq (type : FieldType) :
    type.merged = FieldType.array^[type.dims] (.reference type.className.merged) := by
  induction type with
  | primitive letter =>
    rw [merged, className, letter.merged_className]
    rfl
  | reference name => rfl
  | array element ih => rw [merged, ih, dims, Function.iterate_succ_apply', className]

/-- Types that are read as one type have one merged spelling. -/
theorem merged_eq_of_type {a b : FieldType} {type : TypeUri} (readA : a.type = .ok type)
    (readB : b.type = .ok type) : a.merged = b.merged := by
  obtain ⟨nsA, nameA, dimsA⟩ := ClassName.type_eq_ok readA
  obtain ⟨nsB, nameB, dimsB⟩ := ClassName.type_eq_ok readB
  have sameClass : a.className.merged = b.className.merged :=
    ClassName.merged_eq_of_ns (nsA.symm.trans nsB) (Subtype.ext (nameA.symm.trans nameB))
  rw [merged_eq, merged_eq, sameClass, ← dimsA, ← dimsB]

theorem map_merged_eq_of_types {as bs : List FieldType} {types : List TypeUri}
    (readA : as.mapM type = .ok types) (readB : bs.mapM type = .ok types) :
    as.map merged = bs.map merged := by
  have relatedA := mapM_eq_ok.1 readA
  have relatedB := mapM_eq_ok.1 readB
  clear readA readB
  induction relatedA generalizing bs with
  | nil =>
    cases relatedB
    rfl
  | cons first _ ih =>
    cases relatedB with
    | cons first' rest =>
      rw [List.map_cons, List.map_cons, merged_eq_of_type first first', ih rest]

theorem type_merged (fieldType : FieldType) : fieldType.merged.type = fieldType.type := by
  have same : fieldType.merged.dims = fieldType.dims ∧
      fieldType.merged.className = fieldType.className.merged := by
    induction fieldType with
    | primitive letter => exact ⟨rfl, letter.merged_className.symm⟩
    | reference name => exact ⟨rfl, rfl⟩
    | array element ih => exact ⟨congrArg (· + 1) ih.1, ih.2⟩
  rw [type, same.1, same.2, ClassName.type_merged, type]

theorem mapM_type_merged (types : List FieldType) :
    (types.map merged).mapM type = types.mapM type := by
  induction types with
  | nil => rfl
  | cons first rest ih => rw [List.map_cons, List.mapM_cons, List.mapM_cons, type_merged, ih]

end FieldType

/-- A reference to a method in a class file. -/
structure MethodRef where
  declarer : ClassName
  name : String
  params : List FieldType
  ret : FieldType
deriving DecidableEq

namespace MethodRef

def descriptor (ref : MethodRef) : String :=
  String.ofList ('(' :: ref.params.flatMap FieldType.chars ++ ')' :: ref.ret.chars)

/-- The reference with one spelling for all that have one URI: no constructor,
no unnamed package and no primitive type is left. -/
def merged (ref : MethodRef) : MethodRef where
  declarer := ref.declarer.merged
  name := if ref.name = constructorName then ref.declarer.simple.val else ref.name
  params := ref.params.map FieldType.merged
  ret := ref.ret.merged

theorem merged_eq_iff {a b : MethodRef} : a.merged = b.merged ↔
    a.declarer.merged = b.declarer.merged ∧ a.merged.name = b.merged.name ∧
      a.params.map FieldType.merged = b.params.map FieldType.merged ∧
        a.ret.merged = b.ret.merged := by
  simp only [merged, MethodRef.mk.injEq]

/-- Up to the closing parenthesis, parameters are read one by one. -/
theorem types_of_scan {params : List FieldType} {descriptor : String} {rest left : List Char}
    {types : List TypeUri}
    (scan : Scan descriptor (params.flatMap FieldType.chars ++ ')' :: rest) (.ok (types, left))) :
    params.mapM FieldType.type = .ok types ∧ left = rest := by
  generalize done : Except.ok (types, left) = outcome at scan
  induction params generalizing types outcome with
  | nil =>
    cases scan with
    | closed =>
      obtain ⟨rfl, rfl⟩ := Prod.mk.inj (Except.ok.inj done)
      exact ⟨rfl, rfl⟩
    | refused inside => contradiction
    | next inside => contradiction
  | cons param params ih =>
    obtain ⟨c, cs, start, notEnd⟩ := param.chars_head
    rw [List.flatMap_cons, List.append_assoc, start, List.cons_append] at scan
    cases scan with
    | closed => contradiction
    | refused => cases done
    | @next _ _ _ _ outcome _ read later =>
      cases outcome with
      | error defect => cases done
      | ok found =>
        obtain ⟨rfl, rfl⟩ := Prod.mk.inj (Except.ok.inj done)
        rw [← List.cons_append, ← start] at read
        obtain ⟨typed, rfl⟩ := FieldType.readType_chars read
        obtain ⟨typedRest, same⟩ := ih _ rfl later
        exact ⟨by rw [List.mapM_cons, typed, typedRest]; rfl, same⟩

/-- A descriptor is read type by type. -/
theorem parseDescriptor_descriptor {ref : MethodRef} {params : List TypeUri} {ret : TypeUri}
    (read : parseDescriptor ref.descriptor = .ok (params, ret)) :
    ref.params.mapM FieldType.type = .ok params ∧ ref.ret.type = .ok ret := by
  rw [parseDescriptor, descriptor, String.toList_ofList, List.cons_append] at read
  obtain ⟨⟨types, left⟩, first, read⟩ := bind_eq_ok.1 read
  obtain ⟨typed, rfl⟩ := types_of_scan (readParams_eq_iff.1 first)
  obtain ⟨⟨type, left⟩, second, read⟩ := bind_eq_ok.1 read
  rw [← List.append_nil ref.ret.chars] at second
  obtain ⟨typedRet, rfl⟩ := FieldType.readType_chars second
  obtain ⟨rfl, rfl⟩ := Prod.mk.inj (Except.ok.inj read)
  exact ⟨typed, typedRet⟩

/-- A method that a reference may stand for. -/
structure Names (ref : MethodRef) (method : MethodUri) : Prop where
  ns : method.ns = ref.declarer.ns
  typeName : method.typeName = ref.declarer.simple.val
  name : method.name = ref.merged.name
  params : ref.params.mapM FieldType.type = .ok method.params
  ret : ref.ret.type = .ok method.ret

theorem declaringType_text {name : ClassName} {type : TypeUri}
    (read : declaringType name.text = .ok type) : name.type 0 = .ok type := by
  have noEnd : ';' ∉ name.path := name.path_free (by tauto)
  have named : typeOfName name.text = name.type 0 := by
    rw [typeOfName, ClassName.text, String.toList_ofList]
    show elementType _ 0 ('L' :: name.path) = _
    rw [elementType_class name.path_ne_nil, beforeEnd?_of_free noEnd, Option.getD_none,
      ClassName.classType_path]
  obtain ⟨type', found, rest⟩ := bind_eq_ok.1 read
  rw [named] at found
  obtain ⟨-, -, noArray⟩ := ClassName.type_eq_ok found
  simp only [noArray, ne_eq, not_true, if_false] at rest
  split at rest
  · cases rest
  · obtain rfl := Except.ok.inj rest
    exact found

/-- A reference that can be read stands for the method that it is read as. -/
theorem names_of_methodOf {ref : MethodRef} {product : Option String} {method : MethodUri}
    (read : methodOf product ref.declarer.text ref.name ref.descriptor = .ok method) :
    method.product = product ∧ ref.Names method := by
  obtain ⟨declarer, declared, read⟩ := bind_eq_ok.1 read
  obtain ⟨⟨params, ret⟩, parsed, made⟩ := bind_eq_ok.1 read
  obtain ⟨sameNs, sameName, -⟩ := ClassName.type_eq_ok (declaringType_text declared)
  obtain ⟨typedParams, typedRet⟩ := parseDescriptor_descriptor parsed
  obtain ⟨sameProduct, ns, typeName, name, rfl, rfl⟩ :=
    MethodUri.parts_of_make (mapError_eq_ok.1 made)
  refine ⟨sameProduct, ns.trans sameNs, typeName.trans sameName, ?_, typedParams, typedRet⟩
  rw [name, merged, sameName]

namespace Names

variable {a b : MethodRef} {method method' : MethodUri}

/-- All references that may stand for a method have one merged spelling. -/
theorem merged_eq (namesA : a.Names method) (namesB : b.Names method) : a.merged = b.merged := by
  have declarer : a.declarer.merged = b.declarer.merged := ClassName.merged_eq_of_ns
    (namesA.ns.symm.trans namesB.ns) (Subtype.ext (namesA.typeName.symm.trans namesB.typeName))
  have name : a.merged.name = b.merged.name := namesA.name.symm.trans namesB.name
  have params := FieldType.map_merged_eq_of_types namesA.params namesB.params
  have ret := FieldType.merged_eq_of_type namesA.ret namesB.ret
  exact merged_eq_iff.2 ⟨declarer, name, params, ret⟩

/-- The merged spelling leaves only the product open. -/
theorem method_eq (namesA : a.Names method) (namesB : b.Names method')
    (same : a.merged = b.merged) (product : method.product = method'.product) :
    method = method' := by
  obtain ⟨declarer, name, params, ret⟩ := merged_eq_iff.1 same
  have ns : method.ns = method'.ns := by
    rw [namesA.ns, namesB.ns, ClassName.ns, declarer, ClassName.ns]
  have typeName : method.typeName = method'.typeName := by
    rw [namesA.typeName, namesB.typeName]
    exact congrArg (fun name => name.simple.val) declarer
  have sameName : method.name = method'.name := by rw [namesA.name, namesB.name, name]
  have sameParams : (Except.ok method.params : Except Defect _) = .ok method'.params := by
    rw [← namesA.params, ← namesB.params, ← FieldType.mapM_type_merged a.params, params,
      FieldType.mapM_type_merged]
  have sameRet : (Except.ok method.ret : Except Defect _) = .ok method'.ret := by
    rw [← namesA.ret, ← namesB.ret, ← a.ret.type_merged, ret, FieldType.type_merged]
  cases method
  cases method'
  rw [MethodUri.mk.injEq]
  exact ⟨product, ns, typeName, sameName, Except.ok.inj sameParams, Except.ok.inj sameRet⟩

end Names

/-- References are read as one method exactly if they have one merged
spelling. -/
theorem eq_iff_merged {a b : MethodRef} {product : Option String} {method method' : MethodUri}
    (readA : methodOf product a.declarer.text a.name a.descriptor = .ok method)
    (readB : methodOf product b.declarer.text b.name b.descriptor = .ok method') :
    method = method' ↔ a.merged = b.merged := by
  obtain ⟨productA, namesA⟩ := names_of_methodOf readA
  obtain ⟨productB, namesB⟩ := names_of_methodOf readB
  constructor
  · rintro rfl
    exact namesA.merged_eq namesB
  · intro same
    exact namesA.method_eq namesB same (productA.trans productB.symm)

end MethodRef

end CallGraph.Jvm
