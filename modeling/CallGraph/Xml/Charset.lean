import CallGraph.Text.Digit
import CallGraph.Text.Utf8
import CallGraph.Xml.Chars
import CallGraph.Xml.OctetSets
/-!
The character set of a document. The first octets tell how wide the units are; a declaration at
the start may name the set, and is refused where it names one of another width. The octets are
then read strictly: a document with an octet that has no meaning is not read at all.
-/
namespace CallGraph.Xml

/-- A reason why a document cannot be read. -/
inductive Defect where
  | malformed
  /-- The document names a character set that is not known. -/
  | unknownCharset
  /-- The document names a character set in which characters differ in width. -/
  | wideCharset
  /-- The document names a coding that cannot be used for octets. -/
  | unusableCharset (name : String)
deriving DecidableEq, Repr

/-- A character set. -/
inductive Charset where
  | utf8
  /-- Units of two octets, the more significant octet first or last. -/
  | utf16 (bigEndian : Bool)
  /-- One octet per character; beyond ASCII, as the given characters say. -/
  | oneOctet (upper : List Char)
deriving DecidableEq

namespace Charset

/-- The characters of the octets from 0x80 on, each with the number of its octet. -/
def latin1Upper : List Char := (List.range 128).map fun i => Char.ofNat (0x80 + i)

/-- A character of a set with one octet per character. -/
def decodeOctet? (upper : List Char) (b : UInt8) : Option Char :=
  if b.toNat < 0x80 then some (Char.ofNat b.toNat)
  else match upper[b.toNat - 0x80]? with
    | some '\uFFFD' => none
    | found => found

def units? (bigEndian : Bool) : Octets → Option (List Nat)
  | [] => some []
  | [_] => none
  | a :: b :: rest =>
    (units? bigEndian rest).map fun us =>
      (if bigEndian then a.toNat * 256 + b.toNat else b.toNat * 256 + a.toNat) :: us

/-- The characters of units, with two units for those beyond the basic plane. -/
def ofUnits? : List Nat → Option (List Char)
  | [] => some []
  | high :: low :: rest =>
    if 0xD800 ≤ high ∧ high < 0xDC00 then
      if 0xDC00 ≤ low ∧ low < 0xE000 then
        (ofUnits? rest).map (Char.ofNat (0x10000 + (high - 0xD800) * 0x400 + (low - 0xDC00)) :: ·)
      else none
    else if 0xDC00 ≤ high ∧ high < 0xE000 then none
    else (ofUnits? (low :: rest)).map (Char.ofNat high :: ·)
  | [unit] => if 0xD800 ≤ unit ∧ unit < 0xE000 then none else some [Char.ofNat unit]

/-- The text of octets, if each of them has a meaning. -/
def decode? : Charset → Octets → Option (List Char)
  | .utf8, octets => Text.decodeUtf8? octets
  | .utf16 bigEndian, octets => (units? bigEndian octets).bind ofUnits?
  | .oneOctet upper, octets => octets.mapM (decodeOctet? upper)

/-- The set that the first octets tell, and the octets after a byte order mark. -/
def detect : Octets → Charset × Octets
  | 0xEF :: 0xBB :: 0xBF :: rest => (.utf8, rest)
  | 0xFE :: 0xFF :: rest => (.utf16 true, rest)
  | 0xFF :: 0xFE :: rest => (.utf16 false, rest)
  | 0x00 :: low :: rest => (.utf16 true, 0x00 :: low :: rest)
  | low :: 0x00 :: rest => (.utf16 false, low :: 0x00 :: rest)
  | octets => (.utf8, octets)

/-- The name of a set in small letters, with runs of marks other than dots as one underscore. -/
def normalizeName (name : List Char) : String :=
  let words := (name.map Char.toLower).splitBy fun a b => isWord a == isWord b
  let words := words.filter fun word => word.all isWord
  String.ofList (['_'].intercalate words)
where
  isWord (c : Char) : Bool := Text.isAsciiLetter c || Text.isAsciiDigit c || c == '.'

/-- The set of a normalised name. -/
def ofName (name : String) : Except Defect Charset :=
  match octetSets.find? fun set => set.names.include name with
  | some set => .ok (.oneOctet set.upper.toList)
  | none =>
    if asciiNames.include name then .ok (.oneOctet [])
    else if wideNames.include name then .error .wideCharset
    else if foreignNames.include name then .error .malformed
    else if unusableNames.contains name then .error (.unusableCharset name)
    else .error .unknownCharset

/-- The set for a document of the given units that names its set so. The sets of Unicode must
have the width of the units, and a set of one octet per character needs units of one octet. -/
def declared (units : Charset) (name : List Char) : Except Defect Charset :=
  let wide := units matches .utf16 _
  match String.ofList (name.map Char.toUpper) with
  | "UTF-8" => if wide then .error .malformed else .ok .utf8
  | "ISO-8859-1" => if wide then .error .malformed else .ok (.oneOctet latin1Upper)
  | "US-ASCII" => if wide then .error .malformed else .ok (.oneOctet [])
  | "UTF-16" => if wide then .ok units else .error .malformed
  | "UTF-16BE" => if units = .utf16 true then .ok units else .error .malformed
  | "UTF-16LE" => if units = .utf16 false then .ok units else .error .malformed
  | _ => ofName (normalizeName name)

end Charset

end CallGraph.Xml
