import CallGraph.Uri.Type
/-!
Type names of class files. A type is a primitive letter, or `L` and a path whose last segment is
the simple name, with an optional `;` at the end; each `[` in front adds an array dimension.
-/
namespace CallGraph.Jvm

/-- A reason why a name or a descriptor of a class file stands for no type or method. -/
inductive Defect where
  /-- Neither a primitive letter nor a class name. -/
  | unrecognizedType (name : String)
  /-- A descriptor that ends where a type has to follow. -/
  | truncated (descriptor : String)
  | unterminatedClass (descriptor : String)
  | noParameterList (descriptor : String)
  /-- A parameter list that does not end. -/
  | unbalanced (descriptor : String)
  /-- More text after the type of the result. -/
  | trailing (descriptor : String)
  /-- A method said to be declared by a primitive type. -/
  | primitiveDeclarer (name : String)
  | uri (defect : Uri.Defect)
deriving DecidableEq, Repr

def Defect.message : Defect → String
  | .unrecognizedType name => "Unrecognized JVM type name: " ++ Text.quoted name
  | .truncated descriptor => "Truncated descriptor: " ++ Text.quoted descriptor
  | .unterminatedClass descriptor =>
    "Unterminated class type in descriptor: " ++ Text.quoted descriptor
  | .noParameterList descriptor =>
    "Method descriptor must start with '(': " ++ Text.quoted descriptor
  | .unbalanced descriptor => "Unbalanced method descriptor: " ++ Text.quoted descriptor
  | .trailing descriptor =>
    "Trailing characters in method descriptor: " ++ Text.quoted descriptor
  | .primitiveDeclarer name => "Primitive type cannot declare methods: " ++ Text.quoted name
  | .uri defect => defect.message

/-- The name in `java.lang` of the type that a letter stands for. -/
def primitiveName? : Char → Option String
  | 'V' => some "VoidType"
  | 'Z' => some "BooleanType"
  | 'B' => some "ByteType"
  | 'C' => some "CharType"
  | 'S' => some "ShortType"
  | 'I' => some "IntType"
  | 'J' => some "LongType"
  | 'F' => some "FloatType"
  | 'D' => some "DoubleType"
  | _ => none

/-- A type from its parts, with a failure of the parts as a failure of the name. -/
def typeOf (ns name : String) (dims : Nat) : Except Defect TypeUri :=
  (TypeUri.make ns name dims).mapError .uri

/-- The type of a class path: the last segment is the name, the others are the package. -/
def classType (path : List Char) (dims : Nat) : Except Defect TypeUri :=
  match Text.cutLast? '/' path with
  | none => typeOf TypeUri.defaultNamespace (String.ofList path) dims
  | some ([], name) => typeOf TypeUri.defaultNamespace (String.ofList name) dims
  | some (package, name) =>
    typeOf (String.ofList (Text.replaceChar '/' ['.'] package)) (String.ofList name) dims

/-- The type of a name without its array markers; `whole` is the name for messages. -/
def elementType (whole : String) (dims : Nat) (element : List Char) : Except Defect TypeUri :=
  match element with
  | [letter] =>
    match primitiveName? letter with
    | some name => typeOf TypeUri.javaLang name dims
    | none => .error (.unrecognizedType whole)
  | 'L' :: path@(_ :: _) => classType ((Text.beforeEnd? [';'] path).getD path) dims
  | _ => .error (.unrecognizedType whole)

/-- The type that a class file names so. -/
def typeOfName (name : String) : Except Defect TypeUri :=
  let cs := name.toList
  elementType name (cs.takeWhile (· == '[')).length (cs.dropWhile (· == '['))

end CallGraph.Jvm
