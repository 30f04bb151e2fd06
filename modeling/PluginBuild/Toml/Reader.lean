import PluginBuild.Toml.Document
import PluginBuild.Toml.Token
/-!
# Reading TOML

A TOML text is a row of lines: headers of tables, and keys with values. The reader takes one token
at a time and keeps the arrays and inline tables it is inside of on a stack.
-/

namespace PluginBuild.Toml

/-- The number of arrays and inline tables in each other that is too many for a reader. -/
def nestingLimit : Nat := 80

/-- A dotted key that is being read. -/
structure Key where
  /-- The names read so far, last one first. -/
  names : List String
  /-- Whether a name has to come next. -/
  open? : Bool

namespace Key

/-- The key of which nothing has been read. -/
def empty : Key := ⟨[], true⟩

/-- The key with a name more. -/
def name? (name : String) (key : Key) : Option Key :=
  if key.open? then some ⟨name :: key.names, false⟩ else none

/-- The key with a dot more. -/
def dot? (key : Key) : Option Key := if key.open? then none else some { key with open? := true }

/-- Whether a name can stand in a key without quotes. -/
def isBare (name : List Char) : Bool := name.all fun c => c.isAlphanum || c == '_' || c == '-'

/-- The key with the parts of a word more: names with dots between, of which the first and the last
may be missing. -/
def parts? (key : Key) : List (List Char) → Option Key
  | [] => some key
  | [part] => add part key
  | part :: rest => (add part key).bind dot? |>.bind fun key => parts? key rest
where
  add (part : List Char) (key : Key) : Option Key :=
    if part.isEmpty then some key
    else if isBare part then key.name? (String.ofList part)
    else none

/-- The key with a token more. -/
def take? (key : Key) : Token → Option Key
  | .word chars => key.parts? (chars.splitOn '.')
  | .string name false => key.name? name
  | _ => none

/-- The path of a complete key and its last name. A key has fewer names than the deepest nesting. -/
def complete? (key : Key) : Option (List String × String) :=
  if key.open? ∨ nestingLimit ≤ key.names.length then none
  else match key.names with
    | [] => none
    | name :: path => some (path.reverse, name)

end Key

/-- An array or inline table that the reader is inside of. -/
inductive Container
  /-- An array with its items, last one first. -/
  | array (items : List Value)
  /-- An inline table whose next value belongs to a key. -/
  | table (fields : Fields) (path : List String) (name : String)

/-- What has to come next in the value of a line. -/
inductive Place
  | value
  /-- An item or the end of an array. -/
  | item
  /-- What may follow an item of an array. -/
  | afterItem
  /-- A key of an inline table with the given fields. -/
  | key (fields : Fields) (key : Key)
  /-- A first key or the end of an inline table. -/
  | firstKey
  /-- What may follow a field of an inline table. -/
  | afterField (fields : Fields)
  /-- The whole value has been read. -/
  | done (value : Value)

/-- A value that is being read. -/
structure Partial where
  place : Place
  /-- The arrays and inline tables around the place, innermost first. -/
  inside : List Container

namespace Partial

/-- The value of which nothing has been read. -/
def empty : Partial := ⟨.value, []⟩

/-- Where a value inside of containers leaves the reader. -/
def complete? (value : Value) : List Container → Option Partial
  | [] => some ⟨.done value, []⟩
  | .array items :: outside => some ⟨.afterItem, .array (value :: items) :: outside⟩
  | .table fields path name :: outside =>
    (fields.addDotted? path name value).map fun fields => ⟨.afterField fields, outside⟩

/-- Whether one container more is too many. -/
def isTooDeep (inside : List Container) : Bool := nestingLimit ≤ inside.length + 1

/-- The value after its first token. -/
def start? (inside : List Container) : Token → Option Partial
  | .mark '[' _ => if isTooDeep inside then none else some ⟨.item, .array [] :: inside⟩
  | .mark '\x7b' _ => if isTooDeep inside then none else some ⟨.firstKey, inside⟩
  | .string s _ => complete? (.string s) inside
  | .word chars => (word? chars).bind (complete? · inside)
  | _ => none

/-- The array that ends here. -/
def closeArray? : List Container → Option Partial
  | .array items :: outside => complete? (.array items.reverse) outside
  | _ => none

/-- The inline table that ends here. -/
def closeTable? (fields : Fields) (inside : List Container) : Option Partial :=
  complete? (.table (fieldsOf fields)) inside

/-- The value after a token. Line ends may stand in arrays only. -/
def step? (p : Partial) (token : Token) : Option Partial :=
  match p.place, token with
  | .value, token => start? p.inside token
  | .item, .lineEnd => some p
  | .item, .mark ']' _ => closeArray? p.inside
  | .item, token => start? p.inside token
  | .afterItem, .lineEnd => some p
  | .afterItem, .mark ',' _ => some { p with place := .item }
  | .afterItem, .mark ']' _ => closeArray? p.inside
  | .firstKey, .mark '\x7d' _ => closeTable? [] p.inside
  | .firstKey, token => (Key.empty.take? token).map fun key => { p with place := .key [] key }
  | .key fields key, .mark '=' _ =>
    key.complete?.map fun (path, name) => ⟨.value, .table fields path name :: p.inside⟩
  | .key fields key, token => (key.take? token).map fun key => { p with place := .key fields key }
  | .afterField fields, .mark ',' _ => some { p with place := .key fields .empty }
  | .afterField fields, .mark '\x7d' _ => closeTable? fields p.inside
  | _, _ => none

end Partial

/-- What has to come next in a document. -/
inductive State
  | line
  /-- What follows the bracket at the start of a line. -/
  | header
  | headerKey (double : Bool) (key : Key)
  /-- The second closing bracket of a header. -/
  | headerEnd (path : List String) (name : String)
  | key (key : Key)
  | value (path : List String) (name : String) (value : Partial)
  | lineEnd

/-- The document and what has to come next after a token. -/
def step? (d : Document) (state : State) (token : Token) : Option (Document × State) :=
  match state, token with
  | .line, .lineEnd => some (d, .line)
  | .line, .mark '[' _ => some (d, .header)
  | .line, token => (Key.empty.take? token).map fun key => (d, .key key)
  | .header, .mark '[' true => some (d, .headerKey true .empty)
  | .header, token => (Key.empty.take? token).map fun key => (d, .headerKey false key)
  | .headerKey false key, .mark ']' _ => do
    let (path, name) ← key.complete?
    return (← d.openTable? path name, .lineEnd)
  | .headerKey true key, .mark ']' _ =>
    key.complete?.map fun (path, name) => (d, .headerEnd path name)
  | .headerKey double key, token => (key.take? token).map fun key => (d, .headerKey double key)
  | .headerEnd path name, .mark ']' true =>
    (d.openElement? path name).map (·, .lineEnd)
  | .key key, .mark '=' _ => key.complete?.map fun (path, name) => (d, .value path name .empty)
  | .key key, token => (key.take? token).map fun key => (d, .key key)
  | .value path name p, token => do
    let p ← p.step? token
    match p.place with
    | .done value => return (← d.add? path name value, .lineEnd)
    | _ => return (d, .value path name p)
  | .lineEnd, .lineEnd => some (d, .line)
  | _, _ => none

/-- The document that the tokens complete. -/
def readFrom (d : Document) (state : State) : List Token → Option Document
  | [] =>
    match state with
    | .line | .lineEnd => some d
    | _ => none
  | token :: rest =>
    match step? d state token with
    | some (d, state) => readFrom d state rest
    | none => none

/-- The fields of the document that a text is. -/
def read? (s : List Char) : Option (List (String × Value)) := do
  let d ← readFrom .empty .line (← tokens? s)
  return fieldsOf d.fields

end PluginBuild.Toml
