import CallGraph.Xml.Token
/-!
Document type declarations. Of all that they can declare, only the entities and the defaults of
attributes that bind namespaces matter to a reader that does not validate; the rest is checked
for its form. Declarations after a parameter entity are passed over, because the reader does not
know what that entity would have declared.
-/
namespace CallGraph.Xml

/-- What an entity stands for. -/
inductive Entity where
  | internal (text : List Char)
  | external
deriving DecidableEq

/-- The default value of an attribute. -/
structure AttributeDefault where
  element : List Char
  assigned : Attribute

/-- What a document type declares. -/
structure Doctype where
  entities : List (List Char × Entity)
  defaults : List AttributeDefault
  incomplete : Bool
  counting : Bool

def Doctype.empty : Doctype := ⟨[], [], false, true⟩

/-- A part of a declaration. -/
inductive Part where
  /-- A name, and whether it has no colon. -/
  | name (chars : List Char) (simple : Bool)
  | nmtoken (chars : List Char)
  | keyword (chars : List Char)
  | literal (chars : List Char)
  /-- A mark: a parenthesis, a bar, a comma, or a percent sign. -/
  | mark (c : Char)
  /-- How often the part before may occur. -/
  | occurs (c : Char)
deriving DecidableEq

def isTokenChar (c : Char) : Bool := isNameChar c || c == ':'

/-- Name characters, as the kind of part that they form. -/
def partOfToken (token : List Char) : Part :=
  match takeQName token with
  | some (name, []) => .name token name.space.isNone
  | _ => .nmtoken token

/-- A mark for how often a part may occur. -/
def isOccurs (c : Char) : Bool := c == '?' || c == '*' || c == '+'

def endsLiteral (cs : List Char) : Bool :=
  cs.head?.any fun c => isSpace c || c == '>' || c == '%' || c == '['

def endsName (cs : List Char) : Bool :=
  cs.head?.any fun c => isSpace c || c == '>' || c == ')' || c == ',' || c == '|' || c == '[' ||
    c == '%' || isOccurs c

def endsGroup (cs : List Char) : Bool :=
  cs.head?.any fun c => isSpace c || c == '>' || c == ')' || c == ',' || c == '|' || isOccurs c

def takePart (cs : List Char) : Option (Part × List Char) :=
  match cs with
  | [] => none
  | '#' :: rest =>
    match takeName rest with
    | some (name, rest) => if endsName rest then some (.keyword name, rest) else none
    | none => none
  | '%' :: rest => if rest.head?.any isSpace then some (.mark '%', rest) else none
  | ')' :: rest => if endsGroup rest then some (.mark ')', rest) else none
  | c :: rest =>
    if c == '(' || c == '|' || c == ',' then some (.mark c, rest)
    else if isOccurs c then some (.occurs c, rest)
    else if c == '"' || c == '\'' then
      match takeLiteral (c :: rest) with
      | some (text, rest) => if endsLiteral rest then some (.literal text, rest) else none
      | none => none
    else if isNameChar c then
      let token := (c :: rest).takeWhile isTokenChar
      let rest := (c :: rest).dropWhile isTokenChar
      if endsName rest then some (partOfToken token, rest) else none
    else none

/-- Takes the parts of a declaration up to its end. A mark for repetition stands directly after
the part it is about. -/
def takeParts : Nat → List Char → Option (List Part × List Char)
  | 0, _ => none
  | fuel + 1, cs =>
    match skipSpace cs with
    | '>' :: rest => some ([], rest)
    | rest =>
      if rest.length < cs.length ∧ rest.head?.any isOccurs then none
      else do
        let (part, rest) ← takePart rest
        let (parts, rest) ← takeParts fuel rest
        return (part :: parts, rest)

/-- A name that is a word of the declaration language. -/
def isWord (word : String) : Part → Bool
  | .name chars _ => String.ofList chars == word
  | _ => false

def isPublicId (cs : List Char) : Bool :=
  cs.all fun c => Text.isAsciiLetter c || Text.isAsciiDigit c || " \n-'()+,./:=?;!*#@$_%".toList.contains c

/-- An identifier of something outside the document, and the parts after it. -/
def externalId? : List Part → Option (List Part)
  | word :: .literal a :: rest =>
    if isWord "SYSTEM" word then some rest
    else if isWord "PUBLIC" word && isPublicId a then
      match rest with
      | .literal _ :: rest => some rest
      | _ => none
    else none
  | _ => none

/-- The text of an entity as it is kept: character references stand for their characters, and
references to entities are left for later. -/
def entityText : Nat → List Char → Option (List Char)
  | _, [] => some []
  | 0, _ => none
  | _, '%' :: _ => none
  | fuel + 1, '&' :: rest =>
    match takeReference rest with
    | none => none
    | some (.char c, after) =>
      if rest.head? = some '#' then (entityText fuel after).map (c :: ·)
      else
        let written := rest.take (rest.length - after.length)
        (entityText fuel after).map fun text => '&' :: written ++ text
    | some (.entity name, after) => (entityText fuel after).map fun text => '&' :: name ++ ';' :: text
  | fuel + 1, c :: rest => (entityText fuel rest).map (c :: ·)

/-- Declares an entity, unless it has been declared before. -/
def Doctype.declare (doctype : Doctype) (name : List Char) (entity : Entity) : Doctype :=
  if (doctype.entities.lookup name).isSome then doctype
  else { doctype with entities := doctype.entities ++ [(name, entity)] }

def readEntity (doctype : Doctype) (parts : List Part) : Option Doctype :=
  match parts with
  | .mark '%' :: .name _ true :: [.literal text] =>
    if doctype.counting then (entityText text.length text).map fun _ => doctype else some doctype
  | .mark '%' :: .name _ true :: id => if externalId? id = some [] then some doctype else none
  | [.name name true, .literal text] =>
    if doctype.counting then
      (entityText text.length text).map fun text => doctype.declare name (.internal text)
    else some doctype
  | .name name true :: id =>
    match externalId? id with
    | some [] => some (if doctype.counting then doctype.declare name .external else doctype)
    | some [word, .name _ true] =>
      if isWord "NDATA" word then
        some (if doctype.counting then doctype.declare name .external else doctype)
      else none
    | _ => none
  | _ => none

/-- A notation declaration. A public identifier alone is enough. -/
def readNotation : List Part → Bool
  | [.name _ true, word, .literal id] =>
    isWord "SYSTEM" word || (isWord "PUBLIC" word && isPublicId id)
  | .name _ true :: id => externalId? id = some []
  | _ => false

/-- The rest of a content model inside groups, given the separators that they use so far; in a
group, all separators are the same. -/
def readGroups : List (Option Char) → Bool → List Part → Bool
  | [], _, parts => parts.isEmpty
  | groups, true, .mark '(' :: rest => readGroups (none :: groups) true rest
  | groups, true, .name _ _ :: .occurs _ :: rest => readGroups groups false rest
  | groups, true, .name _ _ :: rest => readGroups groups false rest
  | _ :: groups, false, .mark ')' :: .occurs _ :: rest => readGroups groups false rest
  | _ :: groups, false, .mark ')' :: rest => readGroups groups false rest
  | separator :: groups, false, .mark c :: rest =>
    (c == '|' || c == ',') && separator.getD c == c && readGroups (some c :: groups) true rest
  | _, _, _ => false

/-- The rest of a model of text mixed with elements. -/
def readMixed : Bool → List Part → Bool
  | false, [.mark ')'] => true
  | _, [.mark ')', .occurs '*'] => true
  | _, .mark '|' :: .name _ _ :: rest => readMixed true rest
  | _, _ => false

def readElement : List Part → Bool
  | [.name _ _, word] => isWord "EMPTY" word || isWord "ANY" word
  | .name _ _ :: .mark '(' :: .keyword word :: rest =>
    String.ofList word == "PCDATA" && readMixed false rest
  | .name _ _ :: .mark '(' :: rest => readGroups [none] true rest
  | _ => false

/-- The words for the types of attributes. -/
def attributeTypes : List String :=
  ["CDATA", "ID", "IDREF", "IDREFS", "ENTITY", "ENTITIES", "NMTOKEN", "NMTOKENS"]

/-- The alternatives of an attribute type up to the closing parenthesis. -/
def skipAlternatives (simpleOnly : Bool) : List Part → Option (List Part)
  | part :: separator :: rest =>
    let allowed := match part with
      | .name _ simple => simple || !simpleOnly
      | .nmtoken _ => !simpleOnly
      | _ => false
    if !allowed then none
    else if separator = .mark ')' then some rest
    else if separator = .mark '|' then skipAlternatives simpleOnly rest
    else none
  | _ => none

def skipType : List Part → Option (List Part)
  | .mark '(' :: rest => skipAlternatives false rest
  | word :: .mark '(' :: rest => if isWord "NOTATION" word then skipAlternatives true rest else none
  | word :: rest => if attributeTypes.any fun w => isWord w word then some rest else none
  | [] => none

/-- The default value of an attribute, if there is one, and the parts after it. -/
def takeDefault : List Part → Option (Option (List Char) × List Part)
  | .literal value :: rest => some (some value, rest)
  | .keyword word :: rest =>
    match String.ofList word, rest with
    | "IMPLIED", rest => some (none, rest)
    | "REQUIRED", rest => some (none, rest)
    | "FIXED", .literal value :: rest => some (some value, rest)
    | _, _ => none
  | _ => none

def readAttributes (element : List Char) : Nat → List Part → Option (List AttributeDefault)
  | _, [] => some []
  | 0, _ => none
  | fuel + 1, .name name _ :: rest => do
    let rest ← skipType rest
    let (value?, rest) ← takeDefault rest
    let more ← readAttributes element fuel rest
    match value?, takeQName name with
    | some value, some (name, _) =>
      if value.contains '<' then none else return ⟨element, ⟨name, value⟩⟩ :: more
    | _, _ => return more
  | _, _ => none

def readDeclaration (doctype : Doctype) (word : String) (parts : List Part) : Option Doctype :=
  match word with
  | "ENTITY" => readEntity doctype parts
  | "NOTATION" => if readNotation parts then some doctype else none
  | "ELEMENT" => if readElement parts then some doctype else none
  | "ATTLIST" =>
    match parts with
    | .name element _ :: rest => do
      let defaults ← readAttributes element rest.length rest
      if doctype.counting then return { doctype with defaults := doctype.defaults ++ defaults }
      else return doctype
    | _ => none
  | _ => none

/-- The declarations inside a document type, up to the closing bracket. -/
def readSubset (standalone : Bool) : Nat → Doctype → List Char → Option (Doctype × List Char)
  | 0, _, _ => none
  | fuel + 1, doctype, cs =>
    match skipSpace cs with
    | ']' :: rest => some (doctype, rest)
    | '%' :: rest => do
      let (_, rest) ← takeName rest
      match rest with
      | ';' :: rest =>
        readSubset standalone fuel { doctype with incomplete := true, counting := standalone } rest
      | _ => none
    | '<' :: '?' :: rest => (skipInstruction rest).bind (readSubset standalone fuel doctype)
    | '<' :: '!' :: '-' :: '-' :: rest => (skipComment rest).bind (readSubset standalone fuel doctype)
    | '<' :: '!' :: rest => do
      let (word, rest) ← takeName rest
      let rest ← needSpace rest
      let (parts, rest) ← takeParts (rest.length + 1) rest
      let doctype ← readDeclaration doctype (String.ofList word) parts
      readSubset standalone fuel doctype rest
    | _ => none

/-- Takes the literals of an external identifier after its word; a literal is followed by white
space, a bracket or the end. -/
def takeExternalId (cs : List Char) : Option (List Char) := do
  let (word, rest) ← takeName cs
  let rest ← needSpace rest
  let (first, rest) ← takeLiteral rest
  if !endsLiteral rest then none
  else if word = "SYSTEM".toList then return rest
  else if word = "PUBLIC".toList && isPublicId first then
    let (_, rest) ← takeLiteral (skipSpace rest)
    if endsLiteral rest then return rest else none
  else none

/-- A document type declaration after its opening words. -/
def readDoctype (standalone : Bool) (cs : List Char) : Option (Doctype × List Char) := do
  let rest ← needSpace cs
  let (_, rest) ← takeQName rest
  let external := match skipSpace rest with
    | c :: _ => c != '[' && c != '>'
    | [] => false
  let rest ← if external then (needSpace rest).bind takeExternalId else pure rest
  match skipSpace rest with
  | '>' :: rest => return ({ Doctype.empty with incomplete := external }, rest)
  | '[' :: rest =>
    let (doctype, rest) ← readSubset standalone (rest.length + 1) .empty rest
    match skipSpace rest with
    | '>' :: rest => return ({ doctype with incomplete := doctype.incomplete || external }, rest)
    | _ => none
  | _ => none

end CallGraph.Xml
