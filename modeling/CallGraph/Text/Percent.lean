import CallGraph.Text.Digit
import CallGraph.Text.Utf8
/-!
Percent encoding of names. A name is written as a token: letters, digits, a few marks and the
dollar sign stand for themselves, every other octet of the name's UTF-8 form is a percent sign
with two upper-case hexadecimal digits. A token therefore never holds a character that
separates the parts of an identifier.

Reading is wider than writing: any token is read, also one that escapes characters without need
or whose octets are ill-formed.
-/
namespace CallGraph.Text

/-- The characters that stand for themselves in a token. -/
def isPlain (c : Char) : Bool :=
  isAsciiLetter c || isAsciiDigit c || c == '_' || c == '.' || c == '-' || c == '~' || c == '$'

/-- A hexadecimal digit that a token may use: the letters are upper-case. -/
def isUpperHex (c : Char) : Bool := isAsciiDigit c || ('A' ≤ c && c ≤ 'F')

/-- The upper-case hexadecimal digit of a value below sixteen. -/
def upperHex (n : Nat) : Char :=
  if n < 10 then Char.ofNat (0x30 + n) else Char.ofNat (0x37 + n)

def escapeOctet (b : UInt8) : List Char :=
  ['%', upperHex (b.toNat / 16), upperHex (b.toNat % 16)]

def encodeNameChar (c : Char) : List Char :=
  if isPlain c then [c] else (String.utf8EncodeChar c).flatMap escapeOctet

def encodeName (cs : List Char) : List Char :=
  cs.flatMap encodeNameChar

/-- Plain characters and escapes, in any order. -/
def isEncoded : List Char → Bool
  | [] => true
  | '%' :: h :: l :: rest => isUpperHex h && isUpperHex l && isEncoded rest
  | c :: rest => isPlain c && isEncoded rest

/-- A token: at least one plain character or escape. -/
def isToken (cs : List Char) : Bool := !cs.isEmpty && isEncoded cs

/-- The octets that ASCII text stands for once its escapes are undone. A percent sign without
two hexadecimal digits stands for itself. -/
def unescapeOctets : List Char → Octets
  | '%' :: h :: l :: rest =>
    match hexValue? h, hexValue? l with
    | some high, some low => UInt8.ofNat (16 * high + low) :: unescapeOctets rest
    | _, _ => 0x25 :: unescapeOctets (h :: l :: rest)
  | c :: rest => UInt8.ofNat c.toNat :: unescapeOctets rest
  | [] => []

/-- A text with its escapes undone and read as UTF-8. Characters outside ASCII stand for
themselves and end the octets before them. -/
def decodeEscapes (cs : List Char) : List Char :=
  go [] cs
where
  /-- Carries the ASCII characters since the last one outside ASCII, last one first. -/
  go (ascii : List Char) : List Char → List Char
    | [] => decodeUtf8Lossy (unescapeOctets ascii.reverse)
    | c :: rest =>
      if c.toNat < 0x80 then go (c :: ascii) rest
      else decodeUtf8Lossy (unescapeOctets ascii.reverse) ++ c :: go [] rest

end CallGraph.Text
