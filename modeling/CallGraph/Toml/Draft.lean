import CallGraph.Toml.Value
/-!
TOML documents while they are read. A statement adds to what the ones before it have written, and
may not change it: a table is opened by its header once, a value that is written in one piece stays
as it is, and a table that a section has opened by the way can have no header of its own.
-/
namespace CallGraph.Toml

/-- The names on the way to a value. -/
abbrev Key := List String

namespace Members

/-- Changes the table at a key, where tables that are not there begin empty. Where arrays are
passed through, the way goes on in the last of their tables. -/
def changeAt (throughArrays : Bool) (change : Members → Option Members) :
    Key → Members → Option Members
  | [], members => change members
  | name :: key, members =>
    match members.get? name with
    | none => (changeAt throughArrays change key []).map fun inner => members.set name (.table inner)
    | some (.table inner) =>
      (changeAt throughArrays change key inner).map fun inner => members.set name (.table inner)
    | some (.array items) =>
      match throughArrays, items.getLast? with
      | true, some (.table inner) =>
        (changeAt throughArrays change key inner).map fun inner =>
          members.set name (.array (items.dropLast ++ [.table inner]))
      | _, _ => none
    | some _ => none

/-- Adds a member to the table at a key, which has none with its name. -/
def addAt (throughArrays : Bool) (key : Key) (value : Value) (members : Members) :
    Option Members :=
  match key.getLast? with
  | none => none
  | some name =>
    members.changeAt throughArrays
      (fun inner => if (inner.get? name).isSome then none else some (inner.set name value))
      key.dropLast

/-- Adds an empty table at the end of the array at a key. -/
def appendAt (key : Key) (members : Members) : Option Members :=
  match key.getLast? with
  | none => none
  | some name =>
    members.changeAt true
      (fun inner =>
        match inner.get? name with
        | none => some (inner.set name (.array [.table []]))
        | some (.array items) => some (inner.set name (.array (items ++ [.table []])))
        | some _ => none)
      key.dropLast

end Members

/-- The key is one of those given, or lies below one. -/
def isWithin (key : Key) (keys : List Key) : Bool := keys.any fun k => k.isPrefixOf key

/-- What has been read of a document. -/
structure Draft where
  root : Members
  /-- Values that are written in one piece. -/
  frozen : List Key
  opened : List Key
  /-- Tables that the section being read has opened by the way; they count once it ends. -/
  opening : List Key

namespace Draft

def empty : Draft := ⟨[], [], [], []⟩

def endSection (draft : Draft) : Draft :=
  { draft with opened := draft.opening ++ draft.opened, opening := [] }

def openTable (draft : Draft) (key : Key) : Option Draft :=
  if draft.opened.contains key || isWithin key draft.frozen then none
  else (draft.root.changeAt true some key).map fun root =>
    { draft with root, opened := key :: draft.opened }

/-- Opens a further table of an array by its header. What lies below the key begins anew. -/
def appendTable (draft : Draft) (key : Key) : Option Draft :=
  if isWithin key draft.frozen then none
  else (draft.root.appendAt key).map fun root =>
    { draft with
      root
      frozen := draft.frozen.filter fun k => !key.isPrefixOf k
      opened := key :: draft.opened.filter fun k => !key.isPrefixOf k }

/-- The tables that a key of several parts opens in a section by the way. -/
def onTheWay (header key : Key) : List Key :=
  (List.range (key.length - 1)).map fun n => header ++ key.take (n + 1)

/-- Gives a key in a section a value. -/
def assign (draft : Draft) (header key : Key) (value : Value) : Option Draft :=
  let way := onTheWay header key
  if way.any draft.opened.contains || isWithin (header ++ key.dropLast) draft.frozen then none
  else (draft.root.addAt true (header ++ key) value).map fun root =>
    { draft with
      root
      frozen := if value.isContainer then (header ++ key) :: draft.frozen else draft.frozen
      opening := way ++ draft.opening }

end Draft

end CallGraph.Toml
