/-!
White space. Coordinates, timestamps and records are read with blanks at their ends left out,
and what counts as a blank is wider than the White_Space property: the four information
separators belong to it too.
-/
namespace CallGraph.Text

/-- The characters with the Unicode property White_Space. -/
def isWhiteSpace (c : Char) : Bool :=
  let n := c.toNat
  (0x9 ≤ n && n ≤ 0xD) || n == 0x20 || n == 0x85 || n == 0xA0 || n == 0x1680 ||
  (0x2000 ≤ n && n ≤ 0x200A) || n == 0x2028 || n == 0x2029 || n == 0x202F || n == 0x205F ||
  n == 0x3000

/-- White space and the information separators U+001C to U+001F. -/
def isBlank (c : Char) : Bool :=
  isWhiteSpace c || (0x1C ≤ c.toNat && c.toNat ≤ 0x1F)

/-- Leaves out the characters of a class at both ends, and none further in. -/
def trimBy (leaveOut : Char → Bool) (cs : List Char) : List Char :=
  ((cs.dropWhile leaveOut).reverse.dropWhile leaveOut).reverse

/-- The text without the blanks at its ends. -/
def trim (text : String) : String :=
  String.ofList (trimBy isBlank text.toList)

/-- No character of the text is anything but a blank. -/
def allBlank (text : String) : Bool :=
  text.toList.all isBlank

end CallGraph.Text
