import CallGraph.Process.Basic
import CallGraph.Text.Cut
import CallGraph.Text.Digit
/-!
Small programs: they print text or the contents of files, wait, or merely end with a status.
-/
namespace CallGraph

/-- What a program does with the words after its name and with its standard input. -/
abbrev Program := FileTree → List String → Octets → Execution

namespace Programs

def succeed : Program := fun _ _ _ => .done "" "" 0

def fail : Program := fun _ _ _ => .done "" "" 1

def catFile (files : FileTree) (input : Octets) (name : String) : Execution :=
  if name = "-" then ⟨input, [], .exited 0, some 0⟩
  else match files.read (.ofText name) with
    | .ok contents => ⟨contents, [], .exited 0, some 0⟩
    | .error (.system e) => .done "" ("cat: " ++ name ++ ": " ++ e.errno.wording ++ "\n") 1
    | .error .nulInName => .done "" "" 1

/-- Prints the contents of files, or of the standard input where none is named. -/
def cat : Program := fun files words input =>
  let names := words.filter fun word => word ≠ "-u" ∧ word ≠ "--"
  (if names.isEmpty then ["-"] else names).foldl
    (fun done name => Execution.andThen done (catFile files input name)) (.done "" "" 0)

def echo : Program := fun _ words _ =>
  match words with
  | "-n" :: words => .done (" ".intercalate words) "" 0
  | words => .done (" ".intercalate words ++ "\n") "" 0

/-- The characters that two-character escapes stand for. -/
def escapes : List (Char × Char) :=
  [('n', '\n'), ('t', '\t'), ('r', '\r'), ('\\', '\\'), ('"', '"'), ('a', '\x07'), ('b', '\x08'),
    ('f', '\x0c'), ('v', '\x0b')]

/-- Takes escapes for what they stand for. -/
def unescape : List Char → List Char
  | '\\' :: c :: rest =>
    match escapes.lookup c with
    | some char => char :: unescape rest
    | none => '\\' :: c :: unescape rest
  | c :: rest => c :: unescape rest
  | [] => []

/-- Fills words into a format; what it has no words for is empty. -/
def fill : List Char → List String → List Char
  | '\\' :: c :: rest, words =>
    match escapes.lookup c with
    | some char => char :: fill rest words
    | none => '\\' :: c :: fill rest words
  | '%' :: '%' :: rest, words => '%' :: fill rest words
  | '%' :: 's' :: rest, words => (words.headD "").toList ++ fill rest (words.drop 1)
  | c :: rest, words => c :: fill rest words
  | [], _ => []

def wanted : List Char → Nat
  | '%' :: '%' :: rest => wanted rest
  | '%' :: 's' :: rest => wanted rest + 1
  | _ :: rest => wanted rest
  | [] => 0

/-- Fills words into a format over and over, until there are none left. -/
def fillAll (format : List Char) : Nat → List String → List Char
  | 0, words => fill format words
  | fuel + 1, words =>
    let rest := words.drop (wanted format)
    fill format words ++ (if rest.isEmpty ∨ wanted format = 0 then [] else fillAll format fuel rest)

def printf : Program := fun _ words _ =>
  match words with
  | [] => .done "" "" 1
  | format :: words =>
    .done (String.ofList (fillAll format.toList words.length words)) "" 0

/-- The milliseconds that a number of seconds in decimal digits makes. -/
def milliseconds? (text : String) : Option Nat :=
  let (whole, fraction) := (Text.cutFirst? '.' text.toList).getD (text.toList, [])
  let digits := whole ++ (fraction ++ ['0', '0', '0']).take 3
  if (whole ++ fraction).isEmpty || !(whole ++ fraction).all Text.isAsciiDigit then none
  else some (Text.ofDigits 10 (digits.map fun c => c.toNat - 0x30))

/-- Waits for as many seconds as its words say together. -/
def sleep : Program := fun _ words _ =>
  if words.isEmpty then .done "" "sleep: missing operand\n" 1
  else match words.mapM milliseconds? with
    | none => .done "" "sleep: invalid time interval\n" 1
    | some times => ⟨[], [], .exited 0, some (times.foldl (· + ·) 0)⟩

def all : List (String × Program) :=
  [("true", succeed), ("false", fail), ("cat", cat), ("echo", echo), ("printf", printf),
    ("sleep", sleep)]

def named? (name : String) : Option Program := all.lookup name

end Programs

end CallGraph
