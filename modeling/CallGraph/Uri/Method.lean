import CallGraph.Uri.Type
/-!
Methods and their URIs. The URI of a method is

  `//product/namespace/Type.method(Parameter,Parameter)Return`

where the product may be absent. The types of the parameters and of the result are written as
fragments relative to the method's namespace, and each fragment is escaped once more, so that
the slashes of the whole URI are those of its own structure.

`MethodUri.parse` reads every text of this shape, also with needless escapes; two texts name the
same method exactly when they are read as equal values.
-/
namespace CallGraph

/-- A method signature, with the product that declares it if that is known. -/
structure MethodUri where
  /-- The product that the method belongs to; the empty product is not the absent one. -/
  product : Option String
  ns : String
  /-- The simple name of the declaring type. -/
  typeName : String
  /-- The name of the method; a constructor has the name of its type. -/
  name : String
  params : List TypeUri
  ret : TypeUri
  ns_ne : ns ≠ ""
  typeName_ok : isTypeName typeName = true
  name_ne : name ≠ ""

namespace MethodUri

/-- Two methods are equal if their parts are. -/
instance : DecidableEq MethodUri := fun a b =>
  if h : (a.product, a.ns, a.typeName, a.name, a.params, a.ret) =
      (b.product, b.ns, b.typeName, b.name, b.params, b.ret) then
    isTrue (by cases a; cases b; simp_all)
  else isFalse fun e => h (by rw [e])

/-- A method from its parts, if they form one. -/
def make (product : Option String) (ns typeName name : String) (params : List TypeUri)
    (ret : TypeUri) : Except Uri.Defect MethodUri :=
  if hns : ns = "" then .error .emptyNamespace
  else match TypeUri.checkName typeName with
    | .error defect => .error defect
    | .ok ⟨typeName, ok⟩ =>
      if hname : name = "" then .error .emptyMethodName
      else .ok ⟨product, ns, typeName, name, params, ret, hns, ok, hname⟩

def typeUri (method : MethodUri) : TypeUri :=
  ⟨method.ns, method.typeName, 0, method.ns_ne, method.typeName_ok⟩

/-- A type fragment as it stands inside the URI of a method. -/
def escapeFragment (fragment : List Char) : List Char :=
  fragment.flatMap fun c =>
    if c = '%' then ['%', '2', '5'] else if c = '/' then ['%', '2', 'F'] else [c]

/-- A type inside the URI of a method of the given namespace. -/
def typeToken (ns : String) (type : TypeUri) : List Char :=
  escapeFragment (type.fragmentChars (some ns))

/-- The product in front of a URI. -/
def authority : Option String → List Char
  | none => []
  | some product => '/' :: '/' :: Text.encodeName product.toList

def textChars (method : MethodUri) : List Char :=
  authority method.product ++ '/' :: Text.encodeName method.ns.toList ++
    '/' :: Text.encodeName method.typeName.toList ++ '.' :: Text.encodeName method.name.toList ++
    '(' :: [','].intercalate (method.params.map (typeToken method.ns)) ++
    ')' :: typeToken method.ns method.ret

def text (method : MethodUri) : String := String.ofList method.textChars

/-- The pieces between the separators of a method URI, still escaped. -/
structure Pieces where
  ns : List Char
  type : List Char
  method : List Char
  params : List Char
  ret : List Char

/-- Exactly one opening and one closing parenthesis, in this order. -/
def hasParameterList (body : List Char) : Bool :=
  body.count '(' == 1 && body.count ')' == 1 &&
    match Text.cutFirst? '(' body with
    | some (_, after) => after.contains ')'
    | none => false

/-- Cuts the part of a method URI after the product at its separators. -/
def Pieces.ofBody (body : List Char) : Option Pieces := do
  let path ← Text.afterStart? ['/'] body
  let (ns, rest) ← Text.cutFirst? '/' path
  let (qualified, rest) ← Text.cutFirst? '(' rest
  let (params, ret) ← Text.cutFirst? ')' rest
  let (type, method) ← Text.cutFirst? '.' qualified
  if ns.isEmpty || type.isEmpty || method.isEmpty || ret.isEmpty then none
  else if type.contains '/' || method.contains '/' || ret.contains '/' || ret.contains ',' then none
  else some ⟨ns, type, method, params, ret⟩

/-- Reads one parameter or the result: a token whose escapes, undone once, leave a fragment. -/
def readType (ns : String) (token : List Char) : Except Uri.Defect TypeUri :=
  if Text.isToken token then
    TypeUri.parse (String.ofList (Text.decodeEscapes token)) (some ns)
  else .error (.unknownType (String.ofList token))

/-- Splits the product off a URI that begins with a slash. -/
def splitProduct (uri : String) (cs : List Char) :
    Except Uri.Defect (Option String × List Char) :=
  match Text.afterStart? ['/', '/'] cs with
  | none => .ok (none, cs)
  | some rest =>
    match Text.cutFirst? '/' rest with
    | none => .error (.productWithoutPath uri)
    | some ([], path) => .ok (some "", '/' :: path)
    | some (token, path) => do
      let product ← Uri.readName .product token
      return (some product, '/' :: path)

/-- Reads the pieces of a URI in the order in which they stand there. -/
def ofPieces (product : Option String) (pieces : Pieces) : Except Uri.Defect MethodUri := do
  let ns ← Uri.readName .ns pieces.ns
  let typeName ← Uri.readName .type pieces.type
  let name ← Uri.readName .method pieces.method
  let params ← if pieces.params.isEmpty then pure []
    else (Text.fields ',' pieces.params).mapM (readType ns)
  let ret ← readType ns pieces.ret
  make product ns typeName name params ret

def parse (uri : String) : Except Uri.Defect MethodUri := do
  let cs := uri.toList
  if (Text.afterStart? ['/'] cs).isNone then throw (.noLeadingSlash uri)
  let (product, body) ← splitProduct uri cs
  if !hasParameterList body then throw (.unbalancedParameters uri)
  match Pieces.ofBody body with
  | none => throw (.malformed uri)
  | some pieces => ofPieces product pieces

end MethodUri

end CallGraph
