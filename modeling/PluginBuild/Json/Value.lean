/-!
# JSON values

Values, and how texts, lists, records and names of a fixed set are taken out of them. A record is an
object, in which unknown keys are passed over and known ones come once, or an array of its fields in
their order, from the end of which fields may be missing.
-/

namespace PluginBuild

/-- A JSON value. Fields keep their order, and a key may come twice. -/
inductive Json
  | null
  | bool (value : Bool)
  | integer (value : Int)
  /-- A number with a fraction, an exponent or a negative zero, which no field holds. -/
  | real
  | string (value : String)
  | array (values : List Json)
  | object (fields : List (String × Json))
  /-- A well-formed value that holds no text: an unpaired surrogate stands in a string, or in a
  key. -/
  | unpaired

end PluginBuild

namespace PluginBuild.Json

/-- A string. -/
def text? : Json → Option String
  | .string s => some s
  | _ => none

/-- A truth value. -/
def flag? : Json → Option Bool
  | .bool b => some b
  | _ => none

/-- A whole number from `bottom` to `top`. -/
def integerIn? (bottom top : Int) : Json → Option Int
  | .integer n => if bottom ≤ n ∧ n ≤ top then some n else none
  | _ => none

/-- Null, or what `item?` takes out. -/
def nullable? {α : Type} (item? : Json → Option α) : Json → Option (Option α)
  | .null => some none
  | j => (item? j).map some

/-- An array of what `item?` takes out. -/
def list? {α : Type} (item? : Json → Option α) : Json → Option (List α)
  | .array values => values.mapM item?
  | _ => none

/-- A name, as a string or as the only key of an object, with null. -/
def name? : Json → Option String
  | .string s => some s
  | .object [(s, .null)] => some s
  | _ => none

/-- The value of a key that comes at most once. -/
def unique? (fields : List (String × Json)) (key : String) : Option (Option Json) :=
  match fields.filter (·.1 = key) with
  | [] => some none
  | [field] => some (some field.2)
  | _ => none

/-- The fields of a record with the given keys, in their order; `none` stands for a missing one. -/
def record? (keys : List String) : Json → Option (List (Option Json))
  | .object fields => keys.mapM (unique? fields)
  | .array values =>
    if values.length ≤ keys.length then
      some (values.map some ++ List.replicate (keys.length - values.length) none)
    else none
  | _ => none

/-- A field that a record must have. -/
def required? {α : Type} (item? : Json → Option α) (field : Option Json) : Option α :=
  field.bind item?

/-- A field that has a default. -/
def defaulted? {α : Type} (default : α) (item? : Json → Option α) : Option Json → Option α
  | none => some default
  | some j => item? j

end PluginBuild.Json
