import CallGraph.Xml.Name
/-!
The tokens of the content of a document: tags, text and references to entities. Comments and
processing instructions leave no token. Text that is written plainly is told apart from text that
is not, because only the former may stand outside of all elements.
-/
namespace CallGraph.Xml

/-- An attribute with its value as written, references included. -/
structure Attribute where
  name : QName
  value : List Char

/-- A token of the content. -/
inductive Token where
  /-- A start tag, or the tag of an empty element. -/
  | start (name : QName) (attributes : List Attribute) (empty : Bool)
  /-- An end tag, with its name as written. -/
  | finish (name : List Char)
  | plain (text : List Char)
  /-- Text from a character reference or a marked section. -/
  | quoted (text : List Char)
  /-- A reference to an entity that is not predefined. -/
  | entity (name : List Char)

/-- Takes an attribute. Its value holds no start of a tag, and every ampersand in it starts a
reference. -/
def takeAttribute (cs : List Char) : Option (Attribute × List Char) := do
  let (name, rest) ← takeQName cs
  match skipSpace rest with
  | '=' :: rest =>
    let (value, rest) ← takeLiteral (skipSpace rest)
    if value.contains '<' then none else return (⟨name, value⟩, rest)
  | _ => none

/-- Takes the attributes of a tag and its end; the last part tells an empty element. There is
white space before every attribute. -/
def takeAttributes : Nat → List Char → Option (List Attribute × Bool × List Char)
  | 0, _ => none
  | fuel + 1, cs =>
    match cs with
    | '>' :: rest => some ([], false, rest)
    | '/' :: '>' :: rest => some ([], true, rest)
    | cs =>
      match needSpace cs with
      | none => none
      | some ('>' :: rest) => some ([], false, rest)
      | some ('/' :: '>' :: rest) => some ([], true, rest)
      | some cs => do
        let (first, rest) ← takeAttribute cs
        let (more, empty, rest) ← takeAttributes fuel rest
        return (first :: more, empty, rest)

/-- Takes a tag after its opening mark. -/
def takeTag (cs : List Char) : Option (Token × List Char) :=
  match cs with
  | '/' :: rest => do
    let rest' := rest.dropWhile fun c => isNameChar c || c == ':'
    let name := rest.takeWhile fun c => isNameChar c || c == ':'
    match skipSpace rest' with
    | '>' :: rest => if name.isEmpty then none else return (.finish name, rest)
    | _ => none
  | cs => do
    let (name, rest) ← takeQName cs
    let (attributes, empty, rest) ← takeAttributes (rest.length + 1) rest
    return (.start name attributes empty, rest)

/-- The mark that starts a section of quoted text. -/
def sectionMark : List Char := "![CDATA[".toList

/-- Takes what starts with an opening mark: a tag, or something that leaves no token. -/
def takeMarkup (cs : List Char) : Option (Option Token × List Char) :=
  match cs with
  | '?' :: rest => (skipInstruction rest).map fun rest => (none, rest)
  | '!' :: '-' :: '-' :: rest => (skipComment rest).map fun rest => (none, rest)
  | cs =>
    match Text.afterStart? sectionMark cs with
    | some rest => (takeUntil [']', ']', '>'] rest).map fun (text, rest) => (some (.quoted text), rest)
    | none => (takeTag cs).map fun (tag, rest) => (some tag, rest)

def endsPlain (c : Char) : Bool := c == '<' || c == '&'

/-- The end of a marked section stands somewhere in the text. -/
def holdsSectionEnd (cs : List Char) : Bool := (takeUntil [']', ']', '>'] cs).isSome

/-- The tokens of a text. Every token takes a character, so as much fuel as there are characters
is enough. -/
def tokensFrom : Nat → List Char → Option (List Token)
  | _, [] => some []
  | 0, _ => none
  | fuel + 1, '<' :: rest => do
    let (token?, rest) ← takeMarkup rest
    let tokens ← tokensFrom fuel rest
    return token?.toList ++ tokens
  | fuel + 1, '&' :: rest => do
    let (reference, rest) ← takeReference rest
    let tokens ← tokensFrom fuel rest
    match reference with
    | .char c => return .quoted [c] :: tokens
    | .entity name => return .entity name :: tokens
  | fuel + 1, cs => do
    let text := cs.takeWhile (!endsPlain ·)
    if holdsSectionEnd text then none
    else
      let tokens ← tokensFrom fuel (cs.dropWhile (!endsPlain ·))
      return .plain text :: tokens

def tokens? (cs : List Char) : Option (List Token) := tokensFrom cs.length cs

end CallGraph.Xml
