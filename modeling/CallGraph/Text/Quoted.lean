import CallGraph.Text.Digit
import CallGraph.Text.Printable
/-!
Quoted text in messages. A message shows foreign text between quotes, with everything that a
reader could not see written as an escape, so a message is always printable itself.
-/
namespace CallGraph.Text

/-- Single quotes, unless the text holds one and no double quote. -/
def quoteMark (cs : List Char) : Char :=
  if cs.contains '\'' && !cs.contains '"' then '"' else '\''

/-- The backslash and the surrounding quote are escaped; unprintable characters are written by
number, with the fewest of two, four or eight hexadecimal digits that hold it. -/
def escapeShown (mark c : Char) : List Char :=
  if c = mark ∨ c = '\\' then ['\\', c]
  else if c = '\n' then ['\\', 'n']
  else if c = '\r' then ['\\', 'r']
  else if c = '\t' then ['\\', 't']
  else if isPrintable c then [c]
  else if c.toNat < 0x100 then '\\' :: 'x' :: hexPadded 2 c.toNat
  else if c.toNat < 0x10000 then '\\' :: 'u' :: hexPadded 4 c.toNat
  else '\\' :: 'U' :: hexPadded 8 c.toNat

def quoted (text : String) : String :=
  let cs := text.toList
  let mark := quoteMark cs
  String.ofList (mark :: cs.flatMap (escapeShown mark) ++ [mark])

end CallGraph.Text
