/-!
UTF-8. Decoding walks over the octets once and remembers what is still owed to the character
it is in. Where an octet cannot continue the character, the octets read so far form one
ill-formed piece, and the octet is looked at again as the start of the next one: this is the
longest ill-formed piece that some character could have begun with.

Strict reading refuses a text with an ill-formed piece; lossy reading puts U+FFFD in its place.
-/
namespace CallGraph

/-- The contents of a file, a response or a standard stream. -/
abbrev Octets := List UInt8

namespace Text

/-- What has been read of the character at hand. -/
inductive Utf8State where
  | between
  /-- Inside a character: so many more octets after the next, the range of the next, and the
  bits so far. -/
  | inside (more low high bits : Nat)
deriving DecidableEq, Repr

/-- What an octet does at the start of a character: the pieces that it completes, and the state
after it. The narrowed ranges for the second octet keep out surrogates, overlong forms and
numbers above U+10FFFF. -/
def leadOctet (b : Nat) : List (Option Char) × Utf8State :=
  if b < 0x80 then ([some (Char.ofNat b)], .between)
  else if b < 0xC2 then ([none], .between)
  else if b < 0xE0 then ([], .inside 0 0x80 0xBF (b - 0xC0))
  else if b = 0xE0 then ([], .inside 1 0xA0 0xBF 0)
  else if b = 0xED then ([], .inside 1 0x80 0x9F 0xD)
  else if b < 0xF0 then ([], .inside 1 0x80 0xBF (b - 0xE0))
  else if b = 0xF0 then ([], .inside 2 0x90 0xBF 0)
  else if b < 0xF4 then ([], .inside 2 0x80 0xBF (b - 0xF0))
  else if b = 0xF4 then ([], .inside 2 0x80 0x8F 4)
  else ([none], .between)

/-- What an octet does in any state. Inside a character it continues it if it is in range, and
is otherwise taken for a lead, after the ill-formed piece before it. -/
def utf8Octet (state : Utf8State) (b : Nat) : List (Option Char) × Utf8State :=
  match state with
  | .between => leadOctet b
  | .inside more low high bits =>
    if low ≤ b ∧ b ≤ high then
      let bits := bits * 64 + (b - 0x80)
      match more with
      | 0 => ([some (Char.ofNat bits)], .between)
      | more + 1 => ([], .inside more 0x80 0xBF bits)
    else
      let (pieces, next) := leadOctet b
      (none :: pieces, next)

/-- The characters that the octets form, with `none` for each ill-formed piece. -/
def utf8Pieces : Utf8State → Octets → List (Option Char)
  | .between, [] => []
  | .inside .., [] => [none]
  | state, b :: rest =>
    let (pieces, next) := utf8Octet state b.toNat
    pieces ++ utf8Pieces next rest

def encodeUtf8 (cs : List Char) : Octets :=
  cs.flatMap String.utf8EncodeChar

/-- The text that the octets are in UTF-8, if they are any. -/
def decodeUtf8? (octets : Octets) : Option (List Char) :=
  (utf8Pieces .between octets).mapM id

/-- The text of the octets, with U+FFFD for each ill-formed piece. -/
def decodeUtf8Lossy (octets : Octets) : List Char :=
  (utf8Pieces .between octets).map (·.getD '\uFFFD')

end Text

end CallGraph
