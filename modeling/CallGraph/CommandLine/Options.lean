import CallGraph.Text.Cut
import CallGraph.Text.Digit
/-!
Options and operands. An option is spelled with one dash and a letter, or with two dashes and a
word, of which a beginning is enough that no other option has. Its value follows in the next
argument, after an equals sign, or directly after the letter. An argument that is no option is an
operand, and after two dashes alone every argument is one.
-/
namespace CallGraph.CommandLine

/-- Why arguments are not carried out. -/
inductive Refusal where
  /-- They ask how to use the program. -/
  | help
  | misuse
deriving DecidableEq, Repr

/-- What an option is for. -/
inductive OptionKind where
  | help
  | flag
  /-- A value, perhaps one of a few. -/
  | value (allowed : Option (List String))
deriving DecidableEq

/-- An option: its name, how it is spelled, and what it is for. -/
structure OptionSpec where
  name : String
  spellings : List String
  kind : OptionKind
deriving DecidableEq

def OptionSpec.hasValue (option : OptionSpec) : Bool :=
  match option.kind with
  | .value _ => true
  | _ => false

/-- What stands in one argument with an option. -/
inductive Held where
  | nothing
  | value (text : String)
  | letters (cs : List Char)

/-- What an argument is. -/
inductive Mark where
  | separator
  | operand
  /-- An option, and what stands in the argument with it. -/
  | option (option : OptionSpec) (held : Held)
  | unknown

/-- An argument and what it is. -/
structure Argument where
  text : String
  mark : Mark

/-! ## What an argument is -/

def spelled? (options : List OptionSpec) (spelling : String) : Option OptionSpec :=
  options.find? fun option => option.spellings.contains spelling

def isLong (spelling : String) : Bool := (Text.afterStart? ['-', '-'] spelling.toList).isSome

/-- The text before the first equals sign, and what stands after it. -/
def cutValue (text : String) : String × Held :=
  match Text.cutFirst? '=' text.toList with
  | none => (text, .nothing)
  | some (before, after) => (String.ofList before, .value (String.ofList after))

/-- The options that an argument may be short for. -/
def candidates (options : List OptionSpec) (text : String) : List Mark :=
  let begins (start spelling : String) : Bool :=
    (Text.afterStart? start.toList spelling.toList).isSome
  options.flatMap fun option => option.spellings.filterMap fun spelling =>
    if isLong text then
      let (start, held) := cutValue text
      if begins start spelling then some (.option option held) else none
    else if spelling.toList = text.toList.take 2 then
      some (.option option (.letters (text.toList.drop 2)))
    else if begins text spelling then some (.option option .nothing)
    else none

/-- A negative number in decimal digits, with a fraction or without. -/
def isNegativeNumber (text : String) : Bool :=
  let isNumber (cs : List Char) : Bool :=
    !cs.isEmpty && cs.all fun c => (Text.decimalValue? c).isSome
  match text.toList with
  | '-' :: cs =>
    let cs := (Text.beforeEnd? ['\n'] cs).getD cs
    match Text.cutFirst? '.' cs with
    | none => isNumber cs
    | some (whole, fraction) => (whole.isEmpty || isNumber whole) && isNumber fraction
  | _ => false

/-- What an argument is that is not two dashes alone. -/
def markOf (options : List OptionSpec) (text : String) : Except Refusal Mark :=
  if text.toList.head? ≠ some '-' ∨ text = "-" then .ok .operand
  else match spelled? options text with
    | some option => .ok (.option option .nothing)
    | none =>
      let (start, held) := cutValue text
      match spelled? options start with
      | some option => .ok (.option option held)
      | none =>
        match candidates options text with
        | [] =>
          .ok (if isNegativeNumber text || text.toList.contains ' ' then .operand else .unknown)
        | [mark] => .ok mark
        | _ => .error .misuse

def markAll (options : List OptionSpec) : List String → Except Refusal (List Argument)
  | [] => .ok []
  | "--" :: rest => .ok (⟨"--", .separator⟩ :: rest.map fun text => ⟨text, .operand⟩)
  | text :: rest => do
    let mark ← markOf options text
    return ⟨text, mark⟩ :: (← markAll options rest)

/-! ## What arguments set -/

/-- What arguments have set so far. -/
structure Arguments where
  /-- The values of options, in order; that of a flag is empty. -/
  values : List (String × String)
  /-- The operand, and the arguments after it where it takes them. -/
  operand : Option (String × List String)
  surplus : Bool

namespace Arguments

def empty : Arguments := ⟨[], none, false⟩

/-- The value that an option has been given last. -/
def value? (arguments : Arguments) (name : String) : Option String :=
  List.lookup name arguments.values.reverse

def isSet (arguments : Arguments) (name : String) : Bool := (arguments.value? name).isSome

def take (arguments : Arguments) (option : OptionSpec) (value : String) :
    Except Refusal Arguments :=
  let taken := { arguments with values := arguments.values ++ [(option.name, value)] }
  match option.kind with
  | .help => .error .help
  | .flag => .ok taken
  | .value none => .ok taken
  | .value (some allowed) => if allowed.contains value then .ok taken else .error .misuse

/-- Takes options with their values; one without a value gets the one given. -/
def takeAll (arguments : Arguments) (options : List (OptionSpec × Option String))
    (given : String) : Except Refusal Arguments :=
  options.foldlM (fun arguments (option, value?) => arguments.take option (value?.getD given))
    arguments

end Arguments

/-- The options that one argument stands for, with the values that it gives them. -/
structure Found where
  /-- The last one may lack its value. -/
  options : List (OptionSpec × Option String)
  /-- Letters are left over that stand for no option. -/
  surplus : Bool

def Found.after (found : Found) (flag : OptionSpec) : Found :=
  { found with options := (flag, some "") :: found.options }

/-- The options that letters after an option stand for: further flags, up to an option that has
the rest as its value. -/
def unfold (options : List OptionSpec) (option : OptionSpec) : List Char → Option Found
  | [] => some ⟨[(option, if option.hasValue then none else some "")], false⟩
  | c :: cs =>
    if option.hasValue then some ⟨[(option, some (String.ofList (c :: cs)))], false⟩
    else if c = '-' then none
    else match spelled? options (String.ofList ['-', c]) with
      | none => some ⟨[(option, some "")], true⟩
      | some next =>
        match cs with
        | '=' :: value =>
          if next.hasValue then some ⟨[(option, some ""), (next, some (String.ofList value))], false⟩
          else none
        | cs => (unfold options next cs).map fun found => found.after option

/-- The options that an argument stands for. -/
def optionsOf (options : List OptionSpec) (option : OptionSpec) : Held → Option Found
  | .nothing => unfold options option []
  | .value text => if option.hasValue then some ⟨[(option, some text)], false⟩ else none
  | .letters cs => unfold options option cs

/-- Takes arguments in order. Where the operand takes the rest, it ends them. -/
def takeArguments (options : List OptionSpec) (takesRest : Bool) :
    Arguments → List Argument → Except Refusal Arguments
  | arguments, [] => .ok arguments
  | arguments, ⟨_, .option option held⟩ :: rest =>
    match optionsOf options option held with
    | none => .error .misuse
    | some found =>
      let arguments := { arguments with surplus := arguments.surplus || found.surplus }
      if found.options.all fun (_, value?) => value?.isSome then do
        takeArguments options takesRest (← arguments.takeAll found.options "") rest
      else match rest with
        | ⟨value, .operand⟩ :: rest => do
          takeArguments options takesRest (← arguments.takeAll found.options value) rest
        | _ => .error .misuse
  | arguments, ⟨_, .unknown⟩ :: rest =>
    takeArguments options takesRest { arguments with surplus := true } rest
  | arguments, ⟨text, .operand⟩ :: rest =>
    if arguments.operand.isSome then
      takeArguments options takesRest { arguments with surplus := true } rest
    else if takesRest then
      .ok { arguments with operand := some (text, rest.map Argument.text) }
    else
      let arguments := { arguments with operand := some (text, []) }
      match rest with
      | ⟨_, .separator⟩ :: rest => takeArguments options takesRest arguments rest
      | rest => takeArguments options takesRest arguments rest
  | arguments, ⟨text, .separator⟩ :: rest =>
    match rest with
    | ⟨_, .operand⟩ :: _ =>
      if arguments.operand.isNone && !takesRest then
        takeArguments options takesRest arguments rest
      else if arguments.operand.isNone then
        .ok { arguments with operand := some (text, rest.map Argument.text) }
      else takeArguments options takesRest { arguments with surplus := true } rest
    | _ => takeArguments options takesRest { arguments with surplus := true } rest

def readArguments (options : List OptionSpec) (takesRest : Bool) (texts : List String) :
    Except Refusal Arguments := do
  takeArguments options takesRest .empty (← markAll options texts)

end CallGraph.CommandLine
