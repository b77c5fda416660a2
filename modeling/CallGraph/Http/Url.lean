import CallGraph.Http.HostName
import CallGraph.Text.Numeral
import CallGraph.Text.Percent
import CallGraph.Text.Printable
import CallGraph.Text.Quoted
/-!
Addresses on the web. Reading an address brings it into one form: scheme and host in small
letters, no port where it is the usual one, dot segments followed, and every character that may
not stand for itself escaped. `Url.text` writes that form.
-/
namespace CallGraph.Http

/-- A reason why a text is no address. -/
inductive UrlDefect where
  | tooLong
  /-- An ASCII character that is not printable, and its place. -/
  | unprintable (c : Char) (place : Nat)
  /-- Something like a numeric address that is none. -/
  | address4 (host : String)
  | address6 (host : String)
  /-- A name in letters that host names cannot have. -/
  | hostLetters (host : String)
  | port (text : String)
  /-- A path after a host that does not begin with a slash. -/
  | pathWithoutSlash
  /-- A path without a host that begins like one. -/
  | pathLikeHost
  /-- A path without a scheme that begins with a colon. -/
  | pathWithColon
deriving DecidableEq, Repr

def UrlDefect.message : UrlDefect → String
  | .tooLong => "URL too long"
  | .unprintable c place =>
    "Invalid non-printable ASCII character in URL, " ++ Text.quoted (String.singleton c) ++
      " at position " ++ place.repr ++ "."
  | .address4 host => "Invalid IPv4 address: " ++ Text.quoted host
  | .address6 host => "Invalid IPv6 address: " ++ Text.quoted host
  | .hostLetters host => "Invalid IDNA hostname: " ++ Text.quoted host
  | .port text => "Invalid port: " ++ Text.quoted text
  | .pathWithoutSlash => "For absolute URLs, path must be empty or begin with '/'"
  | .pathLikeHost => "Relative URLs cannot have a path starting with '//'"
  | .pathWithColon => "Relative URLs cannot have a path starting with ':'"

/-- An address in its parts. -/
structure Url where
  scheme : List Char
  userInfo : List Char
  host : List Char
  port : Option Int
  path : List Char
  query : Option (List Char)
  fragment : Option (List Char)
deriving DecidableEq

/-- The pieces of a text that an address is read from. -/
structure UrlPieces where
  scheme : List Char
  userInfo : List Char
  host : List Char
  port : List Char
  path : List Char
  query : Option (List Char)
  fragment : Option (List Char)

namespace Url

/-- The text before the first of some characters, and from there on. -/
def spanUntil (stops : List Char) (cs : List Char) : List Char × List Char :=
  (cs.takeWhile (!stops.contains ·), cs.dropWhile (!stops.contains ·))

/-- A character that a scheme may go on with. -/
def isSchemeChar (c : Char) : Bool :=
  Text.isAsciiLetter c || Text.isAsciiDigit c || c == '+' || c == '.' || c == '-'

/-- Splits a scheme off, which may be empty. -/
def splitScheme (cs : List Char) : List Char × List Char :=
  match cs.takeWhile isSchemeChar, cs.dropWhile isSchemeChar with
  | [], ':' :: rest => ([], rest)
  | c :: scheme, ':' :: rest => if Text.isAsciiLetter c then (c :: scheme, rest) else ([], cs)
  | _, _ => ([], cs)

/-- Splits a host from the port after it. A host in brackets goes to the last closing one. -/
def splitPort (cs : List Char) : List Char × List Char :=
  let (host, rest) :=
    match cs, Text.cutLast? ']' cs with
    | '[' :: _, some (inside, rest) => (inside ++ [']'], rest)
    | _, _ => spanUntil [':', '@'] cs
  (host, (Text.afterStart? [':'] rest).getD rest)

/-- Cuts a text into the pieces of an address; every text has some. -/
def cut (cs : List Char) : UrlPieces :=
  let (scheme, rest) := splitScheme cs
  let (authority, rest) := match rest with
    | '/' :: '/' :: rest => spanUntil ['/', '?', '#'] rest
    | rest => ([], rest)
  let (path, rest) := spanUntil ['?', '#'] rest
  let (query, rest) := match rest with
    | '?' :: rest =>
      let (query, rest) := spanUntil ['#'] rest
      (some query, rest)
    | rest => (none, rest)
  let fragment := match rest with
    | '#' :: rest => some rest
    | _ => none
  let (userInfo, place) := (Text.cutLast? '@' authority).getD ([], authority)
  let (host, port) := splitPort place
  ⟨scheme, userInfo, host, port, path, query, fragment⟩

def visibleBut (escaped : List Char) (c : Char) : Bool :=
  0x20 < c.toNat && c.toNat < 0x7F && !escaped.contains c

/-- The characters that are escaped in queries. -/
def queryEscaped : List Char := ['"', '#', '<', '>']

/-- The characters that are escaped in fragments. -/
def fragmentEscaped : List Char := ['"', '<', '>', '\x60']

/-- The characters that are escaped in paths. -/
def pathEscaped : List Char := queryEscaped ++ ['?', '\x60', '\x7b', '\x7d']

/-- The characters that are escaped before a host. -/
def userEscaped : List Char := pathEscaped ++ ['/', ';', '=', '@', '[', '\\', ']', '^', '|']

/-- The characters that stand for themselves in a host. -/
def isHostPlain (c : Char) : Bool :=
  Text.isAsciiLetter c || Text.isAsciiDigit c || "-._~!$&'()*+,;=\"\x60\x7b\x7d%|\\".toList.contains c

/-- Escapes the characters outside a class; escapes that are there already stay as they are. -/
def escape (plain : Char → Bool) : List Char → List Char
  | [] => []
  | '%' :: h :: l :: rest =>
    if (Text.hexValue? h).isSome && (Text.hexValue? l).isSome then '%' :: h :: l :: escape plain rest
    else (if plain '%' then ['%'] else Text.escapeOctet 0x25) ++ escape plain (h :: l :: rest)
  | c :: rest =>
    (if plain c then [c] else (String.utf8EncodeChar c).flatMap Text.escapeOctet) ++ escape plain rest

def usualPort (scheme : List Char) : Option Int :=
  match String.ofList scheme with
  | "ftp" => some 21
  | "http" => some 80
  | "https" => some 443
  | "ws" => some 80
  | "wss" => some 443
  | _ => none

/-- The number of a port: blanks at its ends do not count, a sign may stand in front, and single
underscores may stand between digits. -/
def portNumber? (cs : List Char) : Option Int :=
  let (negative, digits) := match Text.trimBy Text.isBlank cs with
    | '-' :: digits => (true, digits)
    | '+' :: digits => (false, digits)
    | digits => (false, digits)
  let groups := Text.fields '_' digits
  if groups.any List.isEmpty then none
  else
    match Text.numeral groups.flatten with
    | .ok n => some (if negative then -(n : Int) else n)
    | .error _ => none

def readPort (scheme cs : List Char) : Except UrlDefect (Option Int) :=
  if cs.isEmpty then .ok none
  else match portNumber? cs with
    | none => .error (.port (String.ofList cs))
    | some n => .ok (if usualPort scheme = some n then none else some n)

def readHost (cs : List Char) : Except UrlDefect (List Char) :=
  let shown := String.ofList cs
  if cs.isEmpty then .ok []
  else if hasOutline4 cs then if isAddress4 cs then .ok cs else .error (.address4 shown)
  else if cs.head? = some '[' ∧ cs.getLast? = some ']' then
    let inside := (cs.drop 1).dropLast
    if isAddress6 inside then .ok inside else .error (.address6 shown)
  else
    let small := cs.map smallLetter
    if cs.all fun c => c.toNat < 0x80 then .ok (escape isHostPlain small)
    else match hostForm? small with
      | some form => .ok form
      | none => .error (.hostLetters shown)

/-- Follows the dot segments of a path. -/
def followDots (cs : List Char) : List Char :=
  let segments := Text.fields '/' cs
  let kept := segments.foldl (fun (kept : List (List Char)) segment =>
    if segment = ['.'] then kept
    else if segment = ['.', '.'] then if kept = [] ∨ kept = [[]] then kept else kept.dropLast
    else kept ++ [segment]) []
  if segments.any fun s => s = ['.'] ∨ s = ['.', '.'] then ['/'].intercalate kept else cs

/-- Whether a path can stand after what is before it. -/
def checkPath (hasScheme hasHost : Bool) (path : List Char) : Except UrlDefect Unit :=
  if hasHost then
    if !path.isEmpty && path.head? != some '/' then .error .pathWithoutSlash else .ok ()
  else if hasScheme then .ok ()
  else if path.take 2 = ['/', '/'] then .error .pathLikeHost
  else if path.head? = some ':' then .error .pathWithColon
  else .ok ()

def ofPieces (pieces : UrlPieces) : Except UrlDefect Url := do
  let scheme := pieces.scheme.map Char.toLower
  let userInfo := escape (visibleBut userEscaped) pieces.userInfo
  let host ← readHost pieces.host
  let port ← readPort pieces.scheme pieces.port
  let hasHost := !userInfo.isEmpty || !host.isEmpty || port.isSome
  checkPath (!scheme.isEmpty) hasHost pieces.path
  let path := if !scheme.isEmpty || hasHost then followDots pieces.path else pieces.path
  return {
    scheme, userInfo, host, port
    path := escape (visibleBut pathEscaped) path
    query := pieces.query.map (escape (visibleBut queryEscaped))
    fragment := pieces.fragment.map (escape (visibleBut fragmentEscaped)) }

/-- The greatest number of characters in an address. -/
def maxLength : Nat := 65536

/-- An ASCII character that is not printable. -/
def isUnprintable (c : Char) : Bool := c.toNat < 0x80 && !Text.isPrintable c

def parse (cs : List Char) : Except UrlDefect Url :=
  if maxLength < cs.length then .error .tooLong
  else match cs.find? isUnprintable with
    | some c => .error (.unprintable c (cs.findIdx isUnprintable))
    | none => ofPieces (cut cs)

/-- The part of an address between scheme and path. -/
def authority (url : Url) : List Char :=
  (if url.userInfo.isEmpty then [] else url.userInfo ++ ['@']) ++
  (if url.host.contains ':' then '[' :: url.host ++ [']'] else url.host) ++
  (match url.port with
    | none => []
    | some n => ':' :: n.repr.toList)

def chars (url : Url) : List Char :=
  (if url.scheme.isEmpty then [] else url.scheme ++ [':']) ++
  (if url.authority.isEmpty then [] else '/' :: '/' :: url.authority) ++ url.path ++
  (match url.query with
    | none => []
    | some query => '?' :: query) ++
  (match url.fragment with
    | none => []
    | some fragment => '#' :: fragment)

def text (url : Url) : String := String.ofList url.chars

/-- An address that says by itself where to go. -/
def isAbsolute (url : Url) : Bool := !url.scheme.isEmpty && !url.host.isEmpty

/-- What is asked for at an address that does not say where to go: its path from the root. -/
def rooted (url : Url) : Except UrlDefect Url :=
  let path := if url.path.isEmpty then ['/'] else url.path
  ofPieces ⟨[], [], [], [], '/' :: path.dropWhile (· == '/'), url.query, none⟩

/-- The segments of a path that another path is taken from: all but the last one. -/
def baseSegments (path : List Char) : List (List Char) :=
  let segments := Text.fields '/' path
  if segments.getLastD [] = [] then segments else segments.dropLast

/-- Follows the dot segments of segments; a dot segment at the end leaves an empty one. -/
def followSegments (segments : List (List Char)) : List (List Char) :=
  let kept := segments.foldl (fun (kept : List (List Char)) segment =>
    if segment = ['.', '.'] then kept.dropLast
    else if segment = ['.'] then kept
    else kept ++ [segment]) []
  let last := segments.getLastD []
  if last = ['.'] ∨ last = ['.', '.'] then kept ++ [[]] else kept

def joinPath (base path : List Char) : List Char :=
  let segments :=
    if path.head? = some '/' then Text.fields '/' path
    else
      let all := baseSegments base ++ Text.fields '/' path
      all.take 1 ++ ((all.drop 1).dropLast.filter fun s => !s.isEmpty) ++
        (if all.length < 2 then [] else [all.getLastD []])
  let joined := ['/'].intercalate (followSegments segments)
  if joined.isEmpty then ['/'] else joined

def join (base url : Url) : Except UrlDefect Url :=
  if !url.scheme.isEmpty && url.scheme != base.scheme then parse url.chars
  else if !url.authority.isEmpty then parse ({ url with scheme := base.scheme } : Url).chars
  else
    let joined : Url :=
      if url.path.isEmpty then
        { base with
          query := if (url.query.getD []).isEmpty then base.query else url.query
          fragment := url.fragment }
      else { base with path := joinPath base.path url.path, query := url.query, fragment := url.fragment }
    parse joined.chars

/-- The address with the host of another one. -/
def withHost (url : Url) (host : List Char) : Except UrlDefect Url :=
  ofPieces ⟨url.scheme, url.userInfo, host,
    (url.port.map fun n => n.repr.toList).getD [], url.path, url.query, url.fragment⟩

def withFragment (url : Url) (fragment : Option (List Char)) : Url := { url with fragment }

end Url

end CallGraph.Http
