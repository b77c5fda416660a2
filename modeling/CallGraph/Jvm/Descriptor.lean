import CallGraph.Jvm.Name
import CallGraph.Uri.Method
/-!
Method descriptors: the types of the parameters, between parentheses and without separators, and
the type of the result. Every class name ends at its semicolon here, so a descriptor splits in
only one way.
-/
namespace CallGraph.Jvm

/-- Takes the name of one type off the front: its array markers, and a letter or a class name. -/
def cutType (descriptor : String) (cs : List Char) :
    Except Defect (List Char × List Char) :=
  let markers := cs.takeWhile (· == '[')
  match cs.dropWhile (· == '[') with
  | [] => .error (.truncated descriptor)
  | 'L' :: rest =>
    match Text.cutFirst? ';' rest with
    | none => .error (.unterminatedClass descriptor)
    | some (path, rest) => .ok (markers ++ 'L' :: path ++ [';'], rest)
  | letter :: rest => .ok (markers ++ [letter], rest)

def readType (descriptor : String) (cs : List Char) :
    Except Defect (TypeUri × List Char) := do
  let (name, rest) ← cutType descriptor cs
  let type ← typeOfName (String.ofList name)
  return (type, rest)

/-- Reads types up to the closing parenthesis. Each type takes at least one character, so as much
fuel as there are characters is enough. -/
def readParams (descriptor : String) : Nat → List Char → Except Defect (List TypeUri × List Char)
  | _, [] => .error (.unbalanced descriptor)
  | _, ')' :: rest => .ok ([], rest)
  | 0, _ => .error (.unbalanced descriptor)
  | fuel + 1, cs => do
    let (param, rest) ← readType descriptor cs
    let (params, rest) ← readParams descriptor fuel rest
    return (param :: params, rest)

/-- The types of the parameters and of the result. -/
def parseDescriptor (descriptor : String) : Except Defect (List TypeUri × TypeUri) :=
  match descriptor.toList with
  | '(' :: cs => do
    let (params, rest) ← readParams descriptor cs.length cs
    let (ret, rest) ← readType descriptor rest
    if rest.isEmpty then return (params, ret) else throw (.trailing descriptor)
  | _ => .error (.noParameterList descriptor)

/-- The name under which class files know every constructor. -/
def constructorName : String := "<init>"

/-- The type whose methods an array has. -/
def objectType : TypeUri := ⟨TypeUri.javaLang, "Object", 0, by decide, by decide⟩

/-- The type that declares the methods of the type so named: arrays have those of `Object`, and
primitive types have none. -/
def declaringType (typeName : String) : Except Defect TypeUri := do
  let type ← typeOfName typeName
  if type.dims ≠ 0 then return objectType
  else if type.isPrimitive then throw (.primitiveDeclarer typeName)
  else return type

/-- The method that a class file refers to by type name, method name and descriptor. A
constructor is given the simple name of its type. -/
def methodOf (product : Option String) (typeName name descriptor : String) :
    Except Defect MethodUri := do
  let type ← declaringType typeName
  let name := if name = constructorName then type.name else name
  let (params, ret) ← parseDescriptor descriptor
  (MethodUri.make product type.ns type.name name params ret).mapError .uri

end CallGraph.Jvm
