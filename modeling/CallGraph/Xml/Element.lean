import CallGraph.Xml.Charset
import CallGraph.Xml.Doctype
import CallGraph.Xml.Namespace
/-!
Documents as trees. `Node.parse` reads the octets of a document into its outermost element: the
character set is found out, declarations are read, entities are replaced by what they stand for,
and names get their namespaces. What an entity stands for is read like any text in its place, but
its elements end where it ends.

The reader does not validate, and attributes are used for namespaces only.
-/
namespace CallGraph.Xml

/-- A part of the content of an element. -/
inductive Node where
  | text (content : String)
  | element (ns name : String) (children : List Node)

namespace Node

mutual

/-- All text in a part of the content. -/
def allText : Node → String
  | .text content => content
  | .element _ _ children => textOf children

/-- All text in parts of the content, in order. -/
def textOf : List Node → String
  | [] => ""
  | node :: nodes => allText node ++ textOf nodes

end

/-- The contents of the elements with a name among parts of the content, whatever namespace they
are in. -/
def childrenNamed (name : String) (nodes : List Node) : List (List Node) :=
  nodes.filterMap fun
    | .element _ n children => if n = name then some children else none
    | .text _ => none

/-- The contents of the first element with a name. -/
def firstNamed? (name : String) (nodes : List Node) : Option (List Node) :=
  (childrenNamed name nodes).head?

end Node

/-- An element whose end has not been read. -/
structure Frame where
  /-- The name as written, which the end tag has to repeat. -/
  written : List Char
  ns : String
  name : String
  bindings : Bindings
  /-- The content so far, last part first. -/
  content : List Node

/-- What has been read of a document. -/
structure Builder where
  /-- The elements around the place at hand, the innermost first. -/
  frames : List Frame
  root : Option Node
  /-- The length of all texts that entities have been replaced by. -/
  replaced : Nat

/-- What a reader has to know of a document as a whole. -/
structure Context where
  doctype : Doctype
  standalone : Bool
  /-- The number of octets of the document. -/
  size : Nat

/-- Entities may not blow a document up: what they stand for may come to eight mebioctets, or to
a hundred times the document. -/
def Context.allows (context : Context) (replaced : Nat) : Bool :=
  context.size + replaced < 8388608 || context.size + replaced ≤ 100 * context.size

/-- An entity that is not declared is a defect, unless declarations are missing. -/
def Context.mayBeUndeclared (context : Context) : Bool :=
  context.doctype.incomplete && !context.standalone

/-- Adds a part to the content of the innermost element. -/
def Builder.add (builder : Builder) (node : Node) : Option Builder :=
  match builder.frames with
  | frame :: frames =>
    some { builder with frames := { frame with content := node :: frame.content } :: frames }
  | [] =>
    match builder.root with
    | none => some { builder with root := some node }
    | some _ => none

/-- Adds text to the content of the innermost element. Outside of all elements there may be
white space that is written plainly. -/
def Builder.addText (builder : Builder) (text : List Char) (isPlain : Bool) : Option Builder :=
  if builder.frames.isEmpty then
    if isPlain && text.all isSpace then some builder else none
  else builder.add (.text (String.ofList text))

def Builder.close (builder : Builder) (written : List Char) : Option Builder :=
  match builder.frames with
  | frame :: frames =>
    if frame.written = written then
      Builder.add { builder with frames }
        (.element frame.ns frame.name frame.content.reverse)
    else none
  | [] => none

/-- The value of an attribute: white space becomes spaces, references become what they stand
for. What an entity with a text of its own stands for is left to `expand`. -/
def expandWith (context : Context) (expand : List Char → List Char → Option (List Char)) :
    Nat → List Char → Option (List Char)
  | _, [] => some []
  | 0, _ => none
  | fuel + 1, '&' :: rest =>
    match takeReference rest with
    | none => none
    | some (.char c, rest) => (expandWith context expand fuel rest).map (c :: ·)
    | some (.entity name, rest) =>
      let replacement : Option (List Char) :=
        match context.doctype.entities.lookup name with
        | none => if context.mayBeUndeclared then some [] else none
        | some (.internal text) => expand name text
        | some .external => none
      match replacement with
      | none => none
      | some text => (expandWith context expand fuel rest).map (text ++ ·)
  | fuel + 1, c :: rest =>
    (expandWith context expand fuel rest).map ((if isSpace c then ' ' else c) :: ·)

/-- The value of an attribute, in which an entity may not lead back to itself: `inside` are the
entities around the text. Depth bounds the entities inside entities. -/
def expandValue (context : Context) : Nat → List (List Char) → List Char → Option (List Char)
  | 0, _, value => expandWith context (fun _ _ => none) value.length value
  | depth + 1, inside, value =>
    expandWith context (fun name text =>
      if inside.contains name || text.contains '<' then none
      else expandValue context depth (name :: inside) (unifyLineEnds text)) value.length value

/-- The attributes of an element, with those that have a default and are not given. -/
def attributesOf (context : Context) (name : QName) (given : List Attribute) : List Attribute :=
  let defaults := (context.doctype.defaults.filter fun d => d.element = name.chars).map
    AttributeDefault.assigned
  defaults.foldl (fun all d =>
    if all.any fun a => a.name.chars = d.name.chars then all else all ++ [d]) given

def Builder.start (context : Context) (builder : Builder) (name : QName)
    (attributes : List Attribute) : Option Builder := do
  let depth := context.doctype.entities.length + 1
  let values ← attributes.mapM fun a => do
    let value ← expandValue context depth [] a.value
    return (a.name, value)
  let defaults ← ((attributesOf context name attributes).drop attributes.length).mapM fun a => do
    let value ← expandValue context depth [] a.value
    return (a.name, value)
  let outer := match builder.frames with
    | frame :: _ => frame.bindings
    | [] => initialBindings
  let bindings ← enter outer (values ++ defaults)
  let space ← elementSpace bindings name
  let frame : Frame := ⟨name.chars, String.ofList space, String.ofList name.name, bindings, []⟩
  if builder.frames.isEmpty && builder.root.isSome then none
  else return { builder with frames := frame :: builder.frames }

/-- Reads one token. Elements that were open before are not closed by it: there are `floor` of
those. What an entity stands for is left to `replace`. -/
def Builder.step (context : Context) (replace : Builder → List Char → Option Builder)
    (floor : Nat) (builder : Builder) : Token → Option Builder
  | .plain text => builder.addText text true
  | .quoted text => builder.addText text false
  | .start name attributes empty =>
    match builder.start context name attributes with
    | some builder => if empty then builder.close name.chars else some builder
    | none => none
  | .finish name => if builder.frames.length ≤ floor then none else builder.close name
  | .entity name => replace builder name

/-- Reads tokens. What an entity stands for is read in its place. Depth bounds the entities inside
entities. -/
def Builder.run (context : Context) :
    Nat → Nat → List (List Char) → List Token → Builder → Option Builder
  | 0, floor, _, tokens, builder =>
    tokens.foldlM (Builder.step context (fun _ _ => none) floor) builder
  | depth + 1, floor, inside, tokens, builder =>
    let replace (builder : Builder) (name : List Char) : Option Builder :=
      match context.doctype.entities.lookup name with
      | some (.internal text) =>
        let builder := { builder with replaced := builder.replaced + text.length }
        if builder.frames.isEmpty || inside.contains name || !context.allows builder.replaced then
          none
        else
          match tokens? (unifyLineEnds text) with
          | none => none
          | some inner =>
            match run context depth builder.frames.length (name :: inside) inner builder with
            | some after => if after.frames.length = builder.frames.length then some after else none
            | none => none
      | _ => none
    tokens.foldlM (Builder.step context replace floor) builder

/-- What the declaration at the start of a document says. -/
structure Declaration where
  charset : Option (List Char)
  standalone : Bool

/-- One setting of the declaration: its name and its value. -/
def takeSetting (cs : List Char) : Option (Option (List Char × List Char) × List Char) :=
  match cs with
  | [] => some (none, [])
  | cs =>
    match needSpace cs with
    | none => none
    | some [] => some (none, [])
    | some cs =>
      let name := cs.takeWhile fun c => !isSpace c && c != '='
      match skipSpace (cs.dropWhile fun c => !isSpace c && c != '='), name with
      | '=' :: rest, _ :: _ =>
        match takeLiteral (skipSpace rest) with
        | some (value, rest) =>
          if value.all fun c => Text.isAsciiLetter c || Text.isAsciiDigit c || ".-_".toList.contains c
          then some (some (name, value), rest)
          else none
        | none => none
      | _, _ => none

def takeSettings : Nat → List Char → Option (List (List Char × List Char))
  | 0, _ => none
  | fuel + 1, cs => do
    let (setting?, rest) ← takeSetting cs
    match setting? with
    | none => return []
    | some setting => return setting :: (← takeSettings fuel rest)

/-- The meaning of the word for whether a document stands alone. -/
def readStandalone (word : List Char) : Option Bool :=
  if word = "yes".toList then some true else if word = "no".toList then some false else none

/-- The declaration that settings make up: the version, then the character set if any, then
whether the document stands alone if it says so. -/
def declarationOf (settings : List (String × List Char)) : Option Declaration :=
  let isName (value : List Char) : Bool := value.head?.any Text.isAsciiLetter
  match settings with
  | [("version", _)] => some ⟨none, false⟩
  | [("version", _), ("encoding", set)] => if isName set then some ⟨some set, false⟩ else none
  | [("version", _), ("standalone", word)] => (readStandalone word).map fun s => ⟨none, s⟩
  | [("version", _), ("encoding", set), ("standalone", word)] =>
    if isName set then (readStandalone word).map fun s => ⟨some set, s⟩ else none
  | _ => none

/-- The mark that the declaration at the start of a document begins with. -/
def declarationMark : List Char := ['<', '?', 'x', 'm', 'l']

/-- Takes the declaration at the start of a document, if there is one. -/
def takeDeclaration (cs : List Char) : Option (Option Declaration × List Char) :=
  match Text.afterStart? declarationMark cs with
  | none => some (none, cs)
  | some rest =>
    if (Text.afterStart? ['?', '>'] rest).isNone && (needSpace rest).isNone then some (none, cs)
    else do
      let (settings, rest) ← takeUntil ['?', '>'] rest
      let settings ← takeSettings (settings.length + 1) settings
      let declaration ← declarationOf (settings.map fun (n, v) => (String.ofList n, v))
      return (some declaration, rest)

/-- Takes what may stand before the outermost element, but for a document type: white space,
comments and processing instructions. -/
def skipMisc : Nat → List Char → Option (List Char)
  | 0, _ => none
  | fuel + 1, cs =>
    match skipSpace cs with
    | '<' :: '?' :: rest => (skipInstruction rest).bind (skipMisc fuel)
    | '<' :: '!' :: '-' :: '-' :: rest => (skipComment rest).bind (skipMisc fuel)
    | rest => some rest

/-- Takes the document type, if there is one. -/
def takeDoctype (standalone : Bool) (cs : List Char) : Option (Doctype × List Char) :=
  match Text.afterStart? "<!DOCTYPE".toList cs with
  | some rest => readDoctype standalone rest
  | none => some (.empty, cs)

def readBody (size : Nat) (standalone : Bool) (cs : List Char) : Option Node := do
  if !cs.all isChar then none
  else
    let cs := unifyLineEnds cs
    let cs ← skipMisc (cs.length + 1) cs
    let (doctype, cs) ← takeDoctype standalone cs
    let tokens ← tokens? cs
    let context : Context := ⟨doctype, standalone, size⟩
    let builder ← Builder.run context (doctype.entities.length + 1) 0 [] tokens ⟨[], none, 0⟩
    if builder.frames.isEmpty then builder.root else none

/-- The part of the octets that a declaration can be looked for in, whatever the set: the ASCII
characters that they begin with. -/
def asciiStart (charset : Charset) (octets : Octets) : List Char :=
  let units := match charset with
    | .utf16 bigEndian => (Charset.units? bigEndian (octets.take (octets.length / 2 * 2))).getD []
    | _ => octets.map UInt8.toNat
  (units.takeWhile (· < 0x80)).map Char.ofNat

/-- The number of octets of a character of ASCII. -/
def Charset.width : Charset → Nat
  | .utf16 _ => 2
  | _ => 1

/-- The outermost element of a document, as the only part of a content. -/
def parse (octets : Octets) : Except Defect Node := do
  let (units, octets) := Charset.detect octets
  let start := asciiStart units octets
  let (declaration?, rest) ← match takeDeclaration start with
    | some found => pure found
    | none => throw .malformed
  let body := octets.drop (units.width * (start.length - rest.length))
  let charset ← match declaration?.bind Declaration.charset with
    | some name => Charset.declared units name
    | none => pure units
  match charset.decode? body with
  | none => throw .malformed
  | some cs =>
    match readBody octets.length (declaration?.any Declaration.standalone) cs with
    | some root => return root
    | none => throw .malformed

end CallGraph.Xml
