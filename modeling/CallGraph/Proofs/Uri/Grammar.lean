import CallGraph.Failure
import CallGraph.Proofs.Listing
import CallGraph.Proofs.Text.Token
import CallGraph.Proofs.Uri.Fragment
import CallGraph.Proofs.Uri.Pieces

/-! The grammar of method URIs. A URI is made of tokens with separators between
them, and no token holds a separator of its own, so there is one way at most to
take a text apart. Reading a text is finding this way and reading the tokens. -/
namespace CallGraph
open Text Listing

/-- What encodes a name is free of every separator. -/
theorem Text.Encodes.free {cs : List Char} {name : String} (encodes : Encodes cs name) {c : Char}
    (separator : isTokenChar c = false) : c ∉ cs :=
  free_of_isEncoded (encodes_iff.1 encodes).1 separator

namespace MethodUri

theorem make_ok {ns typeName name : String} (product : Option String) (params : List TypeUri)
    (ret : TypeUri) (nsNe : ns ≠ "") (typeNameOk : isTypeName typeName = true)
    (nameNe : name ≠ "") : make product ns typeName name params ret =
      .ok ⟨product, ns, typeName, name, params, ret, nsNe, typeNameOk, nameNe⟩ := by
  simp [make, TypeUri.checkName, nsNe, typeNameOk, nameNe]

/-- A method has the parts that it is made of. -/
theorem parts_of_make {product : Option String} {ns typeName name : String}
    {params : List TypeUri} {ret : TypeUri} {method : MethodUri}
    (made : make product ns typeName name params ret = .ok method) :
    method.product = product ∧ method.ns = ns ∧ method.typeName = typeName ∧ method.name = name ∧
      method.params = params ∧ method.ret = ret := by
  by_cases nsNe : ns = ""
  · simp [make, nsNe] at made
  by_cases typeNameOk : isTypeName typeName = true
  · by_cases nameNe : name = ""
    · simp [make, TypeUri.checkName, nsNe, typeNameOk, nameNe] at made
    · rw [make_ok product params ret nsNe typeNameOk nameNe] at made
      obtain rfl := Except.ok.inj made
      exact ⟨rfl, rfl, rfl, rfl, rfl, rfl⟩
  · obtain ⟨defect, refused⟩ := TypeUri.checkName_refused typeNameOk
    simp [make, nsNe, refused] at made

theorem make_eq_ok_iff {product : Option String} {ns typeName name : String}
    {params : List TypeUri} {ret : TypeUri} {method : MethodUri} :
    make product ns typeName name params ret = .ok method ↔
      method.product = product ∧ method.ns = ns ∧ method.typeName = typeName ∧
        method.name = name ∧ method.params = params ∧ method.ret = ret := by
  constructor
  · exact parts_of_make
  · rintro ⟨rfl, rfl, rfl, rfl, rfl, rfl⟩
    exact make_ok _ _ _ method.ns_ne method.typeName_ok method.name_ne

/-- The token stands for a fragment that is read as the type, relative to the
namespace. -/
def WritesType (ns : String) (token : List Char) (type : TypeUri) : Prop :=
  ∃ fragment, Denotes token fragment ∧ TypeUri.parse fragment (some ns) = .ok type

theorem readType_eq_ok_iff {ns : String} {token : List Char} {type : TypeUri} :
    readType ns token = .ok type ↔ WritesType ns token type := by
  rw [readType, WritesType]
  simp only [denotes_iff]
  split
  · next token => simp [token]
  · next noToken => simp [noToken]

/-- The tokens of the parameters, from what stands between the parentheses. -/
def paramTokens (params : List Char) : List (List Char) :=
  if params.isEmpty then [] else fields ',' params

theorem intercalate_paramTokens (params : List Char) :
    [','].intercalate (paramTokens params) = params := by
  rw [paramTokens]
  split
  · next empty => rw [List.isEmpty_iff.1 empty]; rfl
  · exact intercalate_fields ',' params

theorem paramTokens_intercalate {tokens : List (List Char)}
    (separated : ∀ token ∈ tokens, token ≠ [] ∧ ',' ∉ token) :
    paramTokens ([','].intercalate tokens) = tokens := by
  have nothing : [','].intercalate tokens = [] ↔ tokens = [] :=
    intercalate_eq_nil_iff fun token mem => (separated token mem).1
  rw [paramTokens]
  split
  · next empty => exact (nothing.1 (List.isEmpty_iff.1 empty)).symm
  · next some =>
    refine fields_intercalate (fun none => some ?_) fun token mem => (separated token mem).2
    rw [List.isEmpty_iff]
    exact nothing.2 none

/-- The tokens between the separators of a method URI. The product may be absent,
and there may be no parameters. -/
@[ext]
structure Tokens where
  product : Option (List Char)
  ns : List Char
  typeName : List Char
  name : List Char
  params : List (List Char)
  ret : List Char

namespace Tokens

/-- The product in front of a URI, as a token. -/
def authority : Option (List Char) → List Char
  | none => []
  | some product => '/' :: '/' :: product

/-- The text that the tokens make up. -/
def chars (tokens : Tokens) : List Char :=
  authority tokens.product ++ '/' :: tokens.ns ++ '/' :: tokens.typeName ++ '.' :: tokens.name ++
    '(' :: [','].intercalate tokens.params ++ ')' :: tokens.ret

/-- Every part is a token, but for the product, which may be empty. The simple name
has no dot, neither written nor escaped, and no bracket. Parameters and result
stand for fragments that can be read relative to the namespace. -/
structure Grammatical (tokens : Tokens) : Prop where
  product : ∀ token ∈ tokens.product, ∃ product, Encodes token product
  noDot : '.' ∉ tokens.typeName
  typeName : ∃ name, Denotes tokens.typeName name ∧
    ∀ c ∈ name.toList, c ≠ '.' ∧ c ≠ '[' ∧ c ≠ ']'
  name : ∃ name, Denotes tokens.name name
  fragments : ∃ ns, Denotes tokens.ns ns ∧
    ∀ token ∈ tokens.params ++ [tokens.ret], ∃ type, WritesType ns token type

/-- The parts of the method are what the tokens stand for. -/
structure Writes (tokens : Tokens) (method : MethodUri) : Prop where
  product : Option.Rel Encodes tokens.product method.product
  ns : Denotes tokens.ns method.ns
  noDot : '.' ∉ tokens.typeName
  typeName : Denotes tokens.typeName method.typeName
  name : Denotes tokens.name method.name
  params : List.Forall₂ (WritesType method.ns) tokens.params method.params
  ret : WritesType method.ns tokens.ret method.ret

variable {tokens tokens' : Tokens} {method : MethodUri}

/-- Tokens are of the form of the grammar exactly if they write a method. -/
theorem grammatical_iff : tokens.Grammatical ↔ ∃ method, tokens.Writes method := by
  constructor
  · intro grammatical
    obtain ⟨typeName, typeToken, allowed⟩ := grammatical.typeName
    obtain ⟨name, nameToken⟩ := grammatical.name
    obtain ⟨ns, nsToken, fragments⟩ := grammatical.fragments
    obtain ⟨params, written⟩ := exists_forall₂ fun token mem =>
      fragments token (List.mem_append_left _ mem)
    obtain ⟨ret, result⟩ := fragments tokens.ret (by simp)
    obtain ⟨product, authority⟩ : ∃ product, Option.Rel Encodes tokens.product product := by
      cases shape : tokens.product with
      | none => exact ⟨none, .none⟩
      | some token =>
        obtain ⟨product, encodes⟩ := grammatical.product token shape
        exact ⟨some product, .some encodes⟩
    exact ⟨⟨product, ns, typeName, name, params, ret, nsToken.ne_empty,
      isTypeName_iff.2 ⟨typeToken.ne_empty, allowed⟩, nameToken.ne_empty⟩,
      authority, nsToken, grammatical.noDot, typeToken, nameToken, written, result⟩
  · rintro ⟨method, writes⟩
    constructor
    case product =>
      intro token shape
      have authority := writes.product
      rw [Option.mem_def.1 shape] at authority
      generalize method.product = product at authority
      cases authority with
      | some encodes => exact ⟨_, encodes⟩
    case noDot => exact writes.noDot
    case typeName => exact ⟨_, writes.typeName, (isTypeName_iff.1 method.typeName_ok).2⟩
    case name => exact ⟨_, writes.name⟩
    case fragments =>
      refine ⟨_, writes.ns, fun token mem => ?_⟩
      rcases List.mem_append.1 mem with param | result
      · obtain ⟨type, -, written⟩ := exists_of_forall₂ writes.params param
        exact ⟨type, written⟩
      · rw [List.mem_singleton.1 result]
        exact ⟨_, writes.ret⟩

/-! Taking a text apart. -/

/-- The pieces around the separators, with all parameters in one. -/
def pieces (tokens : Tokens) : Pieces :=
  ⟨tokens.ns, tokens.typeName, tokens.name, [','].intercalate tokens.params, tokens.ret⟩

theorem chars_eq (tokens : Tokens) :
    tokens.chars = authority tokens.product ++ tokens.pieces.body := by
  simp [chars, Pieces.body, pieces]

/-- No token holds a separator that would cut it, or cut another token instead. -/
structure Separated (tokens : Tokens) : Prop where
  product : ∀ token ∈ tokens.product, '/' ∉ token
  pieces : tokens.pieces.Separable
  params : ∀ token ∈ tokens.params, token ≠ [] ∧ ',' ∉ token

/-- Of the separators only the dot may stand in a token, and the simple name of
the type has none. -/
theorem Grammatical.separated (grammatical : tokens.Grammatical) : tokens.Separated := by
  obtain ⟨typeName, ⟨typeNe, type⟩, -⟩ := grammatical.typeName
  obtain ⟨name, ⟨nameNe, name⟩⟩ := grammatical.name
  obtain ⟨ns, ⟨nsNe, ns⟩, fragments⟩ := grammatical.fragments
  obtain ⟨_, _, ⟨retNe, ret⟩, -⟩ := fragments tokens.ret (by simp)
  have param {token : List Char} (mem : token ∈ tokens.params) :
      token ≠ [] ∧ ∀ {c}, isTokenChar c = false → c ∉ token := by
    obtain ⟨_, _, ⟨tokenNe, encodes⟩, -⟩ := fragments token (List.mem_append_left _ mem)
    exact ⟨tokenNe, encodes.free⟩
  have params {c : Char} (separator : isTokenChar c = false) (noComma : c ≠ ',') :
      c ∉ [','].intercalate tokens.params := by
    rw [mem_intercalate noComma]
    rintro ⟨token, mem, inside⟩
    exact (param mem).2 separator inside
  constructor
  case product =>
    intro token mem
    obtain ⟨_, encodes⟩ := grammatical.product token mem
    exact encodes.free rfl
  case pieces => exact {
    ns_ne := nsNe
    type_ne := typeNe
    method_ne := nameNe
    ret_ne := retNe
    ns_free := ⟨ns.free rfl, ns.free rfl, ns.free rfl⟩
    type_free := ⟨type.free rfl, grammatical.noDot, type.free rfl, type.free rfl⟩
    method_free := ⟨name.free rfl, name.free rfl, name.free rfl⟩
    params_free := ⟨params rfl (by decide), params rfl (by decide)⟩
    ret_free := ⟨ret.free rfl, ret.free rfl, ret.free rfl, ret.free rfl⟩ }
  case params => exact fun token mem => ⟨(param mem).1, (param mem).2 rfl⟩

/-- Products that hold no slash, in front of bodies that do not begin with two,
can be told from the bodies. -/
theorem authority_append_inj {product product' : Option (List Char)} {rest rest' : List Char}
    (free : ∀ token ∈ product, '/' ∉ token) (free' : ∀ token ∈ product', '/' ∉ token)
    (one : rest.head? ≠ some '/') (one' : rest'.head? ≠ some '/')
    (same : authority product ++ '/' :: rest = authority product' ++ '/' :: rest') :
    product = product' ∧ rest = rest' := by
  cases product with
  | none =>
    cases product' with
    | none => exact ⟨rfl, (List.cons.inj same).2⟩
    | some token' =>
      rw [(List.cons.inj same).2] at one
      exact absurd rfl one
  | some token =>
    cases product' with
    | none =>
      rw [← (List.cons.inj same).2] at one'
      exact absurd rfl one'
    | some token' =>
      have text : token ++ '/' :: rest = token' ++ '/' :: rest' :=
        (List.cons.inj (List.cons.inj same).2).2
      obtain ⟨rfl, rfl⟩ := (append_firstSep_inj (free token rfl) (free' token' rfl)).1 text
      exact ⟨rfl, rfl⟩

/-- The body begins with one slash and not with two. -/
theorem Separated.body_eq (separated : tokens.Separated) :
    ∃ rest, tokens.pieces.body = '/' :: rest ∧ rest.head? ≠ some '/' := by
  obtain ⟨c, ns, shape⟩ := List.exists_cons_of_ne_nil separated.pieces.ns_ne
  have noSlash : c ≠ '/' := by
    rintro rfl
    exact separated.pieces.ns_free.1 (shape ▸ List.mem_cons_self)
  refine ⟨_, rfl, ?_⟩
  rw [shape]
  exact fun slash => noSlash (Option.some.inj slash)

/-- Tokens that make up one text are the same. -/
theorem chars_injective (separated : tokens.Separated) (separated' : tokens'.Separated)
    (same : tokens.chars = tokens'.chars) : tokens = tokens' := by
  obtain ⟨rest, body, one⟩ := separated.body_eq
  obtain ⟨rest', body', one'⟩ := separated'.body_eq
  rw [chars_eq, chars_eq, body, body'] at same
  obtain ⟨product, rfl⟩ := authority_append_inj separated.product separated'.product one one' same
  have cut := congrArg Pieces.ofBody (body.trans body'.symm)
  rw [Pieces.ofBody_body separated.pieces, Pieces.ofBody_body separated'.pieces] at cut
  obtain ⟨ns, typeName, name, params, ret⟩ := Pieces.mk.inj (Option.some.inj cut)
  have paramsSame := congrArg paramTokens params
  rw [paramTokens_intercalate separated.params, paramTokens_intercalate separated'.params]
    at paramsSame
  exact Tokens.ext product ns typeName name paramsSame ret

end Tokens

/-! Reading. -/

variable {tokens : Tokens} {method : MethodUri}

/-- The product that is split off is what its token encodes. -/
theorem exists_of_splitProduct {uri : String} {cs body : List Char} {product : Option String}
    (split : splitProduct uri cs = .ok (product, body)) :
    ∃ token, cs = Tokens.authority token ++ body ∧ Option.Rel Encodes token product := by
  rw [splitProduct] at split
  cases start : afterStart? ['/', '/'] cs with
  | none =>
    rw [start] at split
    obtain ⟨rfl, rfl⟩ := Prod.mk.inj (Except.ok.inj split)
    exact ⟨none, rfl, .none⟩
  | some rest =>
    obtain rfl := eq_append_of_afterStart? start
    rw [start] at split
    cases cut : cutFirst? '/' rest with
    | none => simp [cut] at split
    | some parts =>
      obtain ⟨token, path⟩ := parts
      obtain ⟨rfl, -⟩ := cutFirst?_eq_some cut
      simp only [cut] at split
      cases token with
      | nil =>
        obtain ⟨rfl, rfl⟩ := Prod.mk.inj (Except.ok.inj split)
        exact ⟨some [], rfl, .some ⟨[], .nil, rfl⟩⟩
      | cons c token =>
        obtain ⟨name, read, same⟩ := bind_eq_ok.1 split
        obtain ⟨rfl, rfl⟩ := Prod.mk.inj (Except.ok.inj same)
        exact ⟨some (c :: token), rfl, .some (readName_eq_ok_iff.1 read).2⟩

/-- A product is split off where the body begins. -/
theorem splitProduct_authority (uri : String) {token : Option (List Char)} {product : Option String}
    (encodes : Option.Rel Encodes token product) {rest : List Char} (one : rest.head? ≠ some '/') :
    splitProduct uri (Tokens.authority token ++ '/' :: rest) = .ok (product, '/' :: rest) := by
  cases encodes with
  | none =>
    have noAuthority : afterStart? ['/', '/'] ('/' :: rest) = none := by
      cases rest with
      | nil => rfl
      | cons c rest =>
        have noSlash : '/' ≠ c := fun same => one (congrArg some same.symm)
        simp [afterStart?, noSlash]
    simp only [Tokens.authority, List.nil_append, splitProduct, noAuthority]
  | @some token product encodes =>
    have noSlash : '/' ∉ token := encodes.free rfl
    simp only [Tokens.authority, List.cons_append, splitProduct, afterStart?, if_true,
      cutFirst?_append noSlash]
    cases token with
    | nil =>
      obtain ⟨-, rfl⟩ := encodes_iff.1 encodes
      rfl
    | cons c token =>
      have denotes : Denotes (c :: token) product := ⟨List.cons_ne_nil c token, encodes⟩
      exact bind_eq_ok.2 ⟨product, readName_eq_ok_iff.2 denotes, rfl⟩

/-- Reading no parameters is reading the tokens of none. -/
theorem ofPieces_eq (product : Option String) (pieces : Pieces) :
    ofPieces product pieces = (do
      let ns ← Uri.readName .ns pieces.ns
      let typeName ← Uri.readName .type pieces.type
      let name ← Uri.readName .method pieces.method
      let params ← (paramTokens pieces.params).mapM (readType ns)
      let ret ← readType ns pieces.ret
      make product ns typeName name params ret) := by
  by_cases empty : pieces.params.isEmpty = true
  · simp only [ofPieces, paramTokens, empty, if_true, List.mapM_nil]
  · simp only [ofPieces, paramTokens, empty, Bool.false_eq_true, if_false]

/-- The pieces are read as a method whose parts they stand for. -/
theorem ofPieces_eq_ok_iff {product : Option String} {pieces : Pieces} :
    ofPieces product pieces = .ok method ↔
      method.product = product ∧ Denotes pieces.ns method.ns ∧
      Denotes pieces.type method.typeName ∧ Denotes pieces.method method.name ∧
      List.Forall₂ (WritesType method.ns) (paramTokens pieces.params) method.params ∧
      WritesType method.ns pieces.ret method.ret := by
  simp only [ofPieces_eq, bind_eq_ok, readName_eq_ok_iff, mapM_eq_ok, readType_eq_ok_iff,
    make_eq_ok_iff]
  constructor
  · rintro ⟨ns, nsToken, typeName, typeToken, name, nameToken, params, written, ret, result, same,
      rfl, rfl, rfl, rfl, rfl⟩
    exact ⟨same, nsToken, typeToken, nameToken, written, result⟩
  · rintro ⟨same, nsToken, typeToken, nameToken, written, result⟩
    exact ⟨_, nsToken, _, typeToken, _, nameToken, _, written, _, result, same, rfl, rfl, rfl, rfl,
      rfl⟩

/-- A text is read as a method in four steps. -/
theorem parse_eq_ok_iff {uri : String} : parse uri = .ok method ↔
    (afterStart? ['/'] uri.toList).isNone = false ∧ ∃ product body pieces,
      splitProduct uri uri.toList = .ok (product, body) ∧ hasParameterList body = true ∧
      Pieces.ofBody body = some pieces ∧ ofPieces product pieces = .ok method := by
  rw [parse]
  cases leading : (afterStart? ['/'] uri.toList).isNone with
  | true =>
    rw [if_pos rfl]
    constructor
    · intro refused
      cases refused
    · rintro ⟨bad, -⟩
      cases bad
  | false =>
    simp only [Bool.false_eq_true, if_false, true_and]
    constructor
    · intro read
      obtain ⟨⟨product, body⟩, split, read⟩ := bind_eq_ok.1 read
      dsimp only at read
      cases balanced : hasParameterList body with
      | false =>
        rw [balanced, if_pos (by decide)] at read
        cases read
      | true =>
        rw [balanced, if_neg (by decide)] at read
        cases cut : Pieces.ofBody body with
        | none =>
          rw [cut] at read
          cases read
        | some pieces =>
          rw [cut] at read
          exact ⟨product, body, pieces, split, balanced, cut, read⟩
    · rintro ⟨product, body, pieces, split, balanced, cut, read⟩
      refine bind_eq_ok.2 ⟨(product, body), split, ?_⟩
      dsimp only
      rw [balanced, if_neg (by decide), cut]
      exact read

/-- What tokens write is read. -/
theorem parse_chars (writes : tokens.Writes method) :
    parse (String.ofList tokens.chars) = .ok method := by
  have separated := (Tokens.grammatical_iff.2 ⟨method, writes⟩).separated
  obtain ⟨rest, body, one⟩ := separated.body_eq
  refine parse_eq_ok_iff.2 ?_
  rw [String.toList_ofList, Tokens.chars_eq]
  refine ⟨?_, method.product, tokens.pieces.body, tokens.pieces, ?_,
    Pieces.hasParameterList_body separated.pieces, Pieces.ofBody_body separated.pieces, ?_⟩
  · rw [body]
    cases tokens.product <;> rfl
  · rw [body]
    exact splitProduct_authority _ writes.product one
  · refine ofPieces_eq_ok_iff.2 ⟨rfl, writes.ns, writes.typeName, writes.name, ?_, writes.ret⟩
    rw [Tokens.pieces, paramTokens_intercalate separated.params]
    exact writes.params

/-- What is read as a method is written by tokens. -/
theorem exists_of_parse {uri : String} (read : parse uri = .ok method) :
    ∃ tokens : Tokens, tokens.chars = uri.toList ∧ tokens.Writes method := by
  obtain ⟨-, product, body, pieces, split, -, cut, read⟩ := parse_eq_ok_iff.1 read
  obtain ⟨token, whole, encodes⟩ := exists_of_splitProduct split
  obtain ⟨rfl, noDot⟩ := Pieces.eq_body_of_ofBody cut
  obtain ⟨rfl, ns, typeName, name, params, ret⟩ := ofPieces_eq_ok_iff.1 read
  refine ⟨⟨token, pieces.ns, pieces.type, pieces.method, paramTokens pieces.params, pieces.ret⟩, ?_,
    encodes, ns, noDot, typeName, name, params, ret⟩
  rw [Tokens.chars_eq, whole, Tokens.pieces, intercalate_paramTokens]

/-- A text is read as a method exactly if tokens make it up that write the
method. -/
theorem parse_eq_ok_iff_writes {uri : String} : parse uri = .ok method ↔
    ∃ tokens : Tokens, tokens.chars = uri.toList ∧ tokens.Writes method := by
  constructor
  · exact exists_of_parse
  · rintro ⟨tokens, whole, writes⟩
    have read := parse_chars writes
    rwa [whole, String.ofList_toList] at read

/-- Text of the form of the grammar comes apart in one way. -/
theorem existsUnique_tokens {uri : String}
    (formed : ∃ tokens : Tokens, tokens.chars = uri.toList ∧ tokens.Grammatical) :
    ∃! tokens : Tokens, tokens.chars = uri.toList ∧ tokens.Grammatical := by
  obtain ⟨tokens, whole, grammatical⟩ := formed
  refine ⟨tokens, ⟨whole, grammatical⟩, ?_⟩
  rintro other ⟨otherWhole, otherGrammatical⟩
  exact Tokens.chars_injective otherGrammatical.separated grammatical.separated
    (otherWhole.trans whole.symm)

/-- **The grammar of method URIs.** A text is read exactly if it is, in one way, an
optional product, a namespace, a simple name, a method name, parameters and a
result between their separators, each a token and each token of the form that its
part asks for. The method read is the one whose parts the tokens stand for. Any
other text is refused as malformed. -/
theorem parse_grammar (uri : String) :
    ((∃ method, parse uri = .ok method) ↔
      ∃! tokens : Tokens, tokens.chars = uri.toList ∧ tokens.Grammatical) ∧
    (∀ method, parse uri = .ok method ↔
      ∃ tokens : Tokens, tokens.chars = uri.toList ∧ tokens.Writes method) ∧
    ((¬ ∃! tokens : Tokens, tokens.chars = uri.toList ∧ tokens.Grammatical) ↔
      ∃ defect, parse uri = .error defect ∧
        (Failure.jvm (.uri defect)).kindName = "FormatError") := by
  have formed : (∃ method, parse uri = .ok method) ↔
      ∃! tokens : Tokens, tokens.chars = uri.toList ∧ tokens.Grammatical := by
    simp only [parse_eq_ok_iff_writes]
    constructor
    · rintro ⟨method, tokens, whole, writes⟩
      exact existsUnique_tokens ⟨tokens, whole, Tokens.grammatical_iff.2 ⟨method, writes⟩⟩
    · rintro ⟨tokens, ⟨whole, grammatical⟩, -⟩
      obtain ⟨method, writes⟩ := Tokens.grammatical_iff.1 grammatical
      exact ⟨method, tokens, whole, writes⟩
  refine ⟨formed, fun method => parse_eq_ok_iff_writes, ?_⟩
  rw [← formed]
  cases read : parse uri with
  | ok method => simp
  | error defect =>
    constructor
    · intro _
      exact ⟨defect, rfl, rfl⟩
    · rintro - ⟨method, impossible⟩
      cases impossible

/-- Dots may stand in the name of a method, escapes that are not needed in any
name, and escaped octets need not be UTF-8. -/
example : (parse "//%70/n/T$.m.%FF(A,%2Fo%2FB%255B%255D)R").map (fun method =>
    (method.product, method.typeName, method.name, method.params.map TypeUri.ns)) =
      .ok (some "p", "T$", "m.\uFFFD", ["n", "o"]) := by
  decide +kernel

end MethodUri
end CallGraph
