import PluginBuild.Json.Token
/-!
# Reading JSON

A JSON text is one value. The reader keeps the arrays and objects it is inside of on a stack and
takes one token at a time, so nesting has no limit.
-/

namespace PluginBuild.Json

/-- An array or object that the reader is inside of, its parts last one first. -/
inductive Container
  | array (values : List Json)
  /-- An object whose next value belongs to `key`. -/
  | object (fields : List (Option String × Json)) (key : Option String)

/-- What has to come next. -/
inductive Expected
  | value
  /-- A first value, or the end of an empty array. -/
  | valueOrEnd
  /-- A key of an object with the given fields. -/
  | key (fields : List (Option String × Json))
  /-- A first key, or the end of an empty object. -/
  | keyOrEnd
  | colon (fields : List (Option String × Json)) (key : Option String)
  /-- What may follow a value. -/
  | afterValue (value : Json)

/-- The object with the given fields, last one first. -/
def ofFields (fields : List (Option String × Json)) : Json :=
  match fields.reverse.mapM fun field => field.1.map (·, field.2) with
  | some fields => .object fields
  | none => .unpaired

/-- The value of a string token. -/
def ofString : Option String → Json
  | some s => .string s
  | none => .unpaired

/-- What comes after a token, and the containers it stands inside of. -/
def step (expected : Expected) (inside : List Container) (token : Token) :
    Option (Expected × List Container) :=
  let value (inside : List Container) : Option (Expected × List Container) :=
    match token with
    | .openArray => some (.valueOrEnd, .array [] :: inside)
    | .openObject => some (.keyOrEnd, inside)
    | .string s => some (.afterValue (ofString s), inside)
    | .scalar v => some (.afterValue v, inside)
    | _ => none
  match expected with
  | .value => value inside
  | .valueOrEnd =>
    match token, inside with
    | .closeArray, _ :: outside => some (.afterValue (.array []), outside)
    | _, _ => value inside
  | .keyOrEnd =>
    match token with
    | .closeObject => some (.afterValue (.object []), inside)
    | .string key => some (.colon [] key, inside)
    | _ => none
  | .key fields =>
    match token with
    | .string key => some (.colon fields key, inside)
    | _ => none
  | .colon fields key =>
    match token with
    | .colon => some (.value, .object fields key :: inside)
    | _ => none
  | .afterValue v =>
    match token, inside with
    | .comma, .array values :: outside => some (.value, .array (v :: values) :: outside)
    | .closeArray, .array values :: outside =>
      some (.afterValue (.array (v :: values).reverse), outside)
    | .comma, .object fields key :: outside => some (.key ((key, v) :: fields), outside)
    | .closeObject, .object fields key :: outside =>
      some (.afterValue (ofFields ((key, v) :: fields)), outside)
    | _, _ => none

/-- The value that the tokens complete. -/
def readFrom (expected : Expected) (inside : List Container) : List Token → Option Json
  | [] =>
    match expected, inside with
    | .afterValue v, [] => some v
    | _, _ => none
  | token :: rest =>
    match step expected inside token with
    | some (expected, inside) => readFrom expected inside rest
    | none => none

/-- The value that a text is. -/
def read? (s : List Char) : Option Json := (tokens? s).bind (readFrom .value [])

end PluginBuild.Json
