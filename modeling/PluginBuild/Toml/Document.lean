import PluginBuild.Toml.Value
/-!
# TOML documents

The tables of a document while it is read. How a table came about decides whether a header or a
dotted key may still add to it.
-/

namespace PluginBuild.Toml

/-- How a table came about. -/
inductive Origin
  /-- A header of its own. -/
  | header
  /-- A header of a table inside it. -/
  | implied
  /-- A dotted key. -/
  | dotted
deriving DecidableEq

/-- What a key of a table stands for. -/
inductive Item
  /-- A value, which inline tables are as well. -/
  | value (value : Value)
  | table (origin : Origin) (fields : List (String × Item))
  /-- An array of tables with headers of their own, last one first. -/
  | tables (elements : List (List (String × Item)))

mutual

/-- The value of an item. -/
def Item.toValue : Item → Value
  | .value v => v
  | .table _ fields => .table (fieldsOf fields)
  | .tables elements => .array (elementsOf elements).reverse

/-- The fields of a table as values. -/
def fieldsOf : List (String × Item) → List (String × Value)
  | [] => []
  | (key, item) :: rest => (key, item.toValue) :: fieldsOf rest

/-- Tables as values. -/
def elementsOf : List (List (String × Item)) → List Value
  | [] => []
  | fields :: rest => .table (fieldsOf fields) :: elementsOf rest

end

/-- The fields of a table with their keys. -/
abbrev Fields := List (String × Item)

namespace Fields

/-- The fields with an item for a key, in the place of the one that it has. -/
def set (key : String) (item : Item) (fields : Fields) : Fields :=
  if fields.any (·.1 = key) then
    fields.map fun field => if field.1 = key then (key, item) else field
  else fields ++ [(key, item)]

/-- The fields with a new key. -/
def add? (key : String) (item : Item) (fields : Fields) : Option Fields :=
  if (fields.lookup key).isSome then none else some (fields.set key item)

/-- The fields with a change in the table under a path. Tables on the way that are missing come
about; of an array of tables the last one is meant. -/
def updateAt (path : List String) (change : Fields → Option Fields) (fields : Fields) :
    Option Fields :=
  match path with
  | [] => change fields
  | key :: rest =>
    match fields.lookup key with
    | none => (updateAt rest change []).map fun inner => fields.set key (.table .implied inner)
    | some (.table origin inner) =>
      (updateAt rest change inner).map fun inner => fields.set key (.table origin inner)
    | some (.tables (last :: earlier)) =>
      (updateAt rest change last).map fun last => fields.set key (.tables (last :: earlier))
    | some _ => none

/-- The fields with a value for a dotted key. A table that the key adds to came about by a dotted
key, and none on the way has a header of its own. -/
def addDotted? (path : List String) (key : String) (value : Value) (fields : Fields) :
    Option Fields :=
  match path with
  | [] => fields.add? key (.value value)
  | outer :: rest =>
    match fields.lookup outer with
    | none =>
      (addDotted? rest key value []).map fun inner => fields.set outer (.table .dotted inner)
    | some (.table .dotted inner) =>
      (addDotted? rest key value inner).map fun inner => fields.set outer (.table .dotted inner)
    | some (.table .implied inner) =>
      if rest.isEmpty then none
      else (addDotted? rest key value inner).map fun inner =>
        fields.set outer (.table .implied inner)
    | some (.tables (last :: earlier)) =>
      if rest.isEmpty then none
      else (addDotted? rest key value last).map fun last =>
        fields.set outer (.tables (last :: earlier))
    | some _ => none

/-- The fields with a table for a header. The table may have come about by headers in it, but has
no header yet. -/
def openTable? (key : String) (fields : Fields) : Option Fields :=
  match fields.lookup key with
  | none => some (fields.set key (.table .header []))
  | some (.table .implied inner) => some (fields.set key (.table .header inner))
  | some _ => none

/-- The fields with an element more in an array of tables. -/
def openElement? (key : String) (fields : Fields) : Option Fields :=
  match fields.lookup key with
  | none => some (fields.set key (.tables [[]]))
  | some (.tables elements) => some (fields.set key (.tables ([] :: elements)))
  | some _ => none

end Fields

/-- A document that is being read. -/
structure Document where
  fields : Fields
  /-- The path of the table that the lines belong to. -/
  current : List String

namespace Document

/-- The document of which nothing has been read. -/
def empty : Document := ⟨[], []⟩

/-- The document with a value for a key of its current table. -/
def add? (d : Document) (path : List String) (key : String) (value : Value) : Option Document :=
  (d.fields.updateAt d.current (Fields.addDotted? path key value)).map fun fields =>
    { d with fields }

/-- The document after the header of a table. -/
def openTable? (d : Document) (path : List String) (key : String) : Option Document :=
  (d.fields.updateAt path (Fields.openTable? key)).map fun fields => ⟨fields, path ++ [key]⟩

/-- The document after the header of an element of an array of tables. -/
def openElement? (d : Document) (path : List String) (key : String) : Option Document :=
  (d.fields.updateAt path (Fields.openElement? key)).map fun fields => ⟨fields, path ++ [key]⟩

end Document

end PluginBuild.Toml
