import PluginBuild.Shell.Arithmetic
import PluginBuild.Shell.Pattern
import PluginBuild.Shell.State
/-!
# Expansion of words

The texts that the words of a script stand for. What comes out of a parameter or a script without
quotes is cut at separators, and a field with an unquoted pattern stands for the paths that fit it.
-/

namespace PluginBuild.Shell

open Files (Location Store)

/-- A piece of an expanded word. -/
inductive Glyph
  /-- A character, which may be quoted, and which may separate fields. -/
  | char (c : Char) (quoted parts : Bool)
  /-- Makes a field that may stay empty. -/
  | hold
  /-- Ends a field. -/
  | cut
deriving DecidableEq

namespace Glyph

/-- The glyphs of the value of a parameter or of what a script prints. -/
def ofText (quoted : Bool) (text : List Char) : List Glyph := text.map (char · quoted (!quoted))

/-- The glyphs of arguments that stay apart. -/
def ofArguments (quoted : Bool) (arguments : List String) : List Glyph :=
  [cut].intercalate (arguments.map fun argument =>
    (if quoted then [hold] else []) ++ ofText quoted argument.toList)

/-- The characters of glyphs with their quotes. -/
def field (glyphs : List Glyph) : Field :=
  glyphs.filterMap fun
    | char c quoted _ => some (c, quoted)
    | _ => none

/-- The characters of glyphs in one text, with `between` where they are cut. -/
def text (between : List Char) (glyphs : List Glyph) : List Char :=
  glyphs.flatMap fun
    | char c _ _ => [c]
    | hold => []
    | cut => between

/-- How far the parting of fields has come. -/
inductive Place
  /-- No field is open, and a separator that is no blank makes an empty one. -/
  | between
  /-- Blanks have ended a field, and one separator that is no blank may follow them. -/
  | afterBlank
  /-- A field is open; its characters are reversed. -/
  | inside (field : Field)

namespace Place

/-- The field that ends. -/
def ended : Place → List Field
  | inside field => [field.reverse]
  | _ => []

/-- The characters of the field that goes on or starts. -/
def open? : Place → Field
  | inside field => field
  | _ => []

end Place

/-- The fields of glyphs. -/
def fieldsFrom (separators : List Char) (place : Place) : List Glyph → List Field
  | [] => place.ended
  | cut :: rest => place.ended ++ fieldsFrom separators .between rest
  | hold :: rest => fieldsFrom separators (.inside place.open?) rest
  | char c quoted parts :: rest =>
    if parts ∧ c ∈ separators then
      if c = ' ' ∨ c = '\t' ∨ c = '\n' then
        match place with
        | .inside _ => place.ended ++ fieldsFrom separators .afterBlank rest
        | _ => fieldsFrom separators place rest
      else
        match place with
        | .between => [] :: fieldsFrom separators .between rest
        | _ => place.ended ++ fieldsFrom separators .between rest
    else fieldsFrom separators (.inside ((c, quoted) :: place.open?)) rest

end Glyph

/-- The names of what is in a directory, in order. -/
def namesIn (files : Store) (directory : Location) : List String :=
  let names := files.nodes.filterMap fun (location, _) =>
    match location.reverse with
    | name :: above => if above.reverse = directory then some name else none
    | [] => none
  (names.map inBytes).mergeSort fun a b => a ≤ b

/-- The paths that fit the segments of a pattern below a directory. -/
def pathsFrom (files : Store) (directory : Location) : String → List Field → List String
  | shown, [] => [shown]
  | shown, segment :: rest =>
    let literal := String.ofList (segment.map (·.1))
    let names :=
      if segment.isPattern then
        let isHidden := segment.head?.map (·.1) = some '.'
        let entries := if isHidden then [".", ".."] ++ namesIn files directory
          else (namesIn files directory).filter fun name => !name.startsWith "."
        entries.filter fun name => (Pattern.ofField segment).fits name.toList
      else [literal]
    names.flatMap fun name =>
      let path := shown ++ name
      match files.walk directory [outOfBytes name] with
      | .error _ => []
      | .ok location =>
        match files.node? location, rest with
        | none, _ => []
        | some _, [] => [path]
        | some .directory, _ => pathsFrom files location (path ++ "/") rest
        | some (.file ..), _ => []

/-- The texts that a field stands for. -/
def Field.texts (files : Store) (field : Field) : List String :=
  let literal := String.ofList (field.map (·.1))
  if field.isPattern then
    let segments := field.splitOnP (·.1 = '/')
    let found :=
      match segments with
      | [] :: rest => pathsFrom files [] "/" rest
      | segments => pathsFrom files files.workingDirectory "" segments
    if found.isEmpty then [literal] else found
  else [literal]

/-- Runs scripts for their output. -/
abbrev Capture := Script → State → List UInt8 × State

/-- What a script prints, without the line breaks at the end. -/
def printed (bytes : List UInt8) : List Char :=
  ((ofBytes (bytes.filter (· ≠ 0))).reverse.dropWhile (· = '\n')).reverse

/-- The number that a variable is. -/
def numberOf (s : State) (name : String) : Except String Int :=
  let value := ((s.value? name).getD "").toList
  match integerAt? value with
  | some (n, rest) =>
    if (dropSpace rest).isEmpty ∧ clamped n = n then .ok n
    else .error ("Illegal number: " ++ String.ofList value)
  | none =>
    if (dropSpace value).isEmpty then .ok 0
    else .error ("Illegal number: " ++ String.ofList value)

/-- The value of an expression, and the state with what it assigns. -/
def evaluate (text : List Char) (s : State) : Option Int × State :=
  let failed (message : String) : Option Int × State :=
    (none, s.raise (if message.startsWith "Illegal" then message
      else "arithmetic expression: " ++ message ++ ": \"" ++ String.ofList text ++ "\""))
  match Expression.ofText? text with
  | .error message => failed message
  | .ok expression =>
    match expression.value ⟨[], numberOf s⟩ with
    | .error message => failed message
    | .ok (n, scope) =>
      (some n, scope.assigned.reverse.foldl
        (fun s (name, value) => s.assign name (toString value)) s)

/-- The directory that a name after a tilde stands for. -/
def homeOf? (s : State) (name : List Char) : Option (List Char) :=
  if name.isEmpty then (s.value? "HOME").map String.toList
  else if name = "root".toList then some "/root".toList
  else none

/-- The glyphs of a text that stands for itself. A tilde at its start, and with `assigned` also one
after a colon, stands for a home. -/
def literalGlyphs (s : State) (start assigned parts : Bool) (text : List Char) : List Glyph :=
  match text with
  | [] => []
  | c :: rest =>
    let isEnd (c : Char) : Bool := c = '/' || (assigned && c = ':')
    let name := rest.takeWhile (!isEnd ·)
    let home := if c = '~' && start then homeOf? s name else none
    match home with
    | some home =>
      Glyph.ofText true home ++
        literalGlyphs s false assigned parts (rest.dropWhile (!isEnd ·))
    | none => .char c false parts :: literalGlyphs s (assigned && c = ':') assigned parts rest
termination_by text.length
decreasing_by
  · exact Nat.lt_succ_of_le (List.dropWhile_sublist _).length_le
  · simp

/-- How the literal characters of a word are meant. -/
structure Meaning where
  /-- Whether separators part them. -/
  parts : Bool
  /-- Whether the word is the value of a variable. -/
  assigned : Bool

mutual

/-- The glyphs of a word. `fuel` bounds how deep operands are in each other. -/
def expandWord (capture : Capture) (meaning : Meaning) :
    Nat → Bool → Word → State → List Glyph × State
  | 0, _, _, s => ([], s)
  | _ + 1, _, [], s => ([], s)
  | fuel + 1, start, part :: rest, s =>
    let (glyphs, s) := expandPart capture meaning fuel start part s
    if s.flow ≠ .goOn then ([], s)
    else
      let (more, s) := expandWord capture meaning fuel false rest s
      (glyphs ++ more, s)

/-- The glyphs of a part of a word. -/
def expandPart (capture : Capture) (meaning : Meaning) :
    Nat → Bool → Part → State → List Glyph × State
  | 0, _, _, s => ([], s)
  | _ + 1, start, .literal text quoted, s =>
    if quoted then (.hold :: Glyph.ofText true text, s)
    else (literalGlyphs s start meaning.assigned meaning.parts text, s)
  | _ + 1, _, .output script quoted, s =>
    let (bytes, s) := capture script s
    (Glyph.ofText quoted (printed bytes), s)
  | fuel + 1, _, .number expression quoted, s =>
    let (glyphs, s) := expandWord capture ⟨false, false⟩ fuel false expression s
    if s.flow ≠ .goOn then ([], s)
    else
      let (n, s) := evaluate (Glyph.text [' '] glyphs) s
      (Glyph.ofText quoted (n.elim [] fun n => (toString n).toList), s)
  | fuel + 1, _, .parameter name operation operand quoted, s =>
    let given := s.value? name
    let isArguments := name = "@" || name = "*"
    let value : List Glyph :=
      if name = "@" || (name = "*" && !quoted) then Glyph.ofArguments quoted s.arguments
      else Glyph.ofText quoted (given.getD "").toList
    let operandGlyphs (s : State) : List Glyph × State :=
      expandWord capture ⟨!quoted, meaning.assigned⟩ fuel true operand s
    let isMissing (whenEmpty : Bool) : Bool :=
      if whenEmpty then given.all (·.isEmpty) else given.isNone
    let unset (s : State) : List Glyph × State :=
      ([], s.raise (name ++ ": parameter not set"))
    let needsValue := s.options.needsValues && given.isNone && !isArguments
    match operation with
    | .unknown => ([], s.raise "Bad substitution")
    | .value => if needsValue then unset s else (value, s)
    | .length =>
      if needsValue then unset s
      else (Glyph.ofText quoted (toString (given.getD "").length).toList, s)
    | .instead whenEmpty => if isMissing whenEmpty then ([], s) else operandGlyphs s
    | .otherwise whenEmpty => if isMissing whenEmpty then operandGlyphs s else (value, s)
    | .assign whenEmpty =>
      if isMissing whenEmpty then
        let (glyphs, s) := operandGlyphs s
        let text := Glyph.text s.separators glyphs
        if isName name.toList then (Glyph.ofText quoted text, s.assign name (String.ofList text))
        else ([], s.raise (name ++ ": bad variable name"))
      else (value, s)
    | .require whenEmpty =>
      if isMissing whenEmpty then
        let (glyphs, s) := operandGlyphs s
        let message := if operand.isEmpty then
            if whenEmpty then "parameter not set or null" else "parameter not set"
          else String.ofList (Glyph.text [' '] glyphs)
        ([], if s.flow = .goOn then s.raise (name ++ ": " ++ message) else s)
      else (value, s)
    | .dropStart longest | .dropEnd longest =>
      if needsValue then unset s
      else
        let (glyphs, s) := expandWord capture ⟨false, false⟩ fuel true operand s
        let pattern := Pattern.ofField (Glyph.field glyphs)
        let text := (given.getD "").toList
        let cut := match operation with
          | .dropStart _ => Pattern.dropStart longest pattern text
          | _ => Pattern.dropEnd longest pattern text
        (Glyph.ofText quoted cut, s)

end

/-- How deep words are expanded. -/
def expansionDepth : Nat := 1000

/-- The text of a word that is not cut into fields. -/
def expandText (capture : Capture) (assigned : Bool) (word : Word) (s : State) :
    List Char × State :=
  let (glyphs, s) := expandWord capture ⟨false, assigned⟩ expansionDepth true word s
  (Glyph.text (s.separators.take 1) glyphs, s)

/-- The pattern that a word is. -/
def expandPattern (capture : Capture) (word : Word) (s : State) : Pattern × State :=
  let (glyphs, s) := expandWord capture ⟨false, false⟩ expansionDepth true word s
  (Pattern.ofField (Glyph.field glyphs), s)

/-- The texts of words. -/
def expandWords (capture : Capture) : List Word → State → List String × State
  | [], s => ([], s)
  | word :: rest, s =>
    let (glyphs, s) := expandWord capture ⟨false, false⟩ expansionDepth true word s
    if s.flow ≠ .goOn then ([], s)
    else
      let fields := Glyph.fieldsFrom s.separators .between glyphs
      let texts :=
        if s.options.keepsPatterns then fields.map fun field => String.ofList (field.map (·.1))
        else fields.flatMap (Field.texts s.files)
      let (more, s) := expandWords capture rest s
      (texts ++ more, s)

end PluginBuild.Shell
