import PluginBuild.Shell.FileTools
import PluginBuild.Shell.Sorting
/-!
# Joining

The utility that joins the lines of two sorted files which have a field in common.
-/

namespace PluginBuild.Shell

/-- A field of a joined line: the common one, or one of a file. -/
inductive JoinedField
  | common
  | ofFile (isSecond : Bool) (index : Nat)

/-- A line of a file that is joined. -/
structure JoinLine where
  number : Nat
  text : List Char
  fields : List (List Char)

/-- How lines are joined. -/
structure JoinStyle where
  /-- The place of the common field in the lines of each file. -/
  keys : Nat × Nat
  separator : Option Char
  ignoresCase : Bool
  /-- What stands for a field that is missing. -/
  filler : List Char
  /-- The fields of the joined lines, or else the common one and all others. -/
  fields : Option (List JoinedField)
  /-- Whether the lines of each file that have no partner are printed. -/
  alone : Bool × Bool
  /-- Whether lines that have a partner are printed. -/
  together : Bool
  /-- Whether all lines have to be in order. If that is not said, then those that follow a line
  without a partner have to be. -/
  ordered : Option Bool

namespace JoinStyle

/-- The lines of a text. -/
def read (style : JoinStyle) (text : List Char) : List JoinLine :=
  (linesOf text).zipIdx.map fun (line, index) =>
    ⟨index + 1, line,
      match style.separator with
      | some c => line.splitOn c
      | none => (line.splitOnP fun c => c = ' ' || c = '\t').filter (!·.isEmpty)⟩

/-- The place of the common field in the lines of a file. -/
def place (style : JoinStyle) (isSecond : Bool) : Nat :=
  if isSecond then style.keys.2 else style.keys.1

/-- The common field of the line of a file. -/
def key (style : JoinStyle) (isSecond : Bool) (line : JoinLine) : List Char :=
  line.fields.getD (style.place isSecond) []

/-- Compares common fields. -/
def compare (style : JoinStyle) (a b : List Char) : Ordering :=
  if style.ignoresCase then Comparison.compareTexts (a.map Char.toUpper) (b.map Char.toUpper)
  else Comparison.compareTexts a b

/-- The joined line of two lines, of which one may be missing. -/
def joined (style : JoinStyle) (first second : Option JoinLine) : List Char :=
  let fieldsOf (line : Option JoinLine) : List (List Char) := line.elim [] JoinLine.fields
  let common :=
    match first, second with
    | some line, _ => style.key false line
    | none, some line => style.key true line
    | none, none => []
  let others (isSecond : Bool) (line : Option JoinLine) : List (List Char) :=
    (fieldsOf line).eraseIdx (style.place isSecond)
  let textOf (field : JoinedField) : List Char :=
    match field with
    | .common => common
    | .ofFile false index => (fieldsOf first).getD index []
    | .ofFile true index => (fieldsOf second).getD index []
  let fields : List (List Char) :=
    match style.fields with
    | none => common :: others false first ++ others true second
    | some fields => fields.map textOf
  [style.separator.getD ' '].intercalate
    (fields.map fun text => if text.isEmpty then style.filler else text)

/-- The fields that are printed if each line is as long as the first one of its file. -/
def fieldsLike (style : JoinStyle) (first second : List JoinLine) : List JoinedField :=
  let others (isSecond : Bool) (lines : List JoinLine) : List JoinedField :=
    let count := (lines.head?.elim [] JoinLine.fields).length
    ((List.range count).eraseIdx (style.place isSecond)).map (.ofFile isSecond)
  .common :: others false first ++ others true second

end JoinStyle

/-- What has come about of joining. -/
structure JoinRun where
  /-- The lines, the last one first. -/
  lines : List (List Char)
  /-- Whether a line without a partner has been met. -/
  hasAlone : Bool
  /-- The first line of each file that is not in order. -/
  disorder : Option JoinLine × Option JoinLine

namespace JoinRun

/-- What there is before the first line. -/
def start : JoinRun := ⟨[], false, (none, none)⟩

/-- Whether nothing more is done, as a line is not in order. -/
def isOver (style : JoinStyle) (run : JoinRun) : Bool :=
  style.ordered = some true && (run.disorder.1.isSome || run.disorder.2.isSome)

/-- A line more. -/
def add (line : List Char) (run : JoinRun) : JoinRun := { run with lines := line :: run.lines }

/-- A line of a file without a partner. -/
def addAlone (style : JoinStyle) (isSecond : Bool) (line : JoinLine) (run : JoinRun) : JoinRun :=
  if isSecond then if style.alone.2 then run.add (style.joined none (some line)) else run
  else if style.alone.1 then run.add (style.joined (some line) none) else run

/-- The next line of a file is read. -/
def advance (style : JoinStyle) (isSecond : Bool) (line : JoinLine) (rest : List JoinLine)
    (run : JoinRun) : JoinRun :=
  match rest with
  | [] => run
  | next :: _ =>
    let isChecked := style.ordered.getD run.hasAlone
    let isWrong := isChecked &&
      style.compare (style.key isSecond line) (style.key isSecond next) = .gt
    if !isWrong then run
    else if isSecond then { run with disorder := (run.disorder.1, run.disorder.2.or (some next)) }
    else { run with disorder := (run.disorder.1.or (some next), run.disorder.2) }

/-- The lines of a file that are left when the other one has ended. -/
def finish (style : JoinStyle) (isSecond : Bool) (run : JoinRun) : List JoinLine → JoinRun
  | [] => run
  | line :: rest =>
    if run.isOver style then run
    else finish style isSecond
      ((run.addAlone style isSecond line).advance style isSecond line rest) rest

/-- Joins lines. `fuel` bounds the number of steps. -/
def join (style : JoinStyle) : Nat → List JoinLine → List JoinLine → JoinRun → JoinRun
  | 0, _, _, run => run
  | fuel + 1, s, t, run =>
    match s, t with
    | s, [] => run.finish style false s
    | [], t => run.finish style true t
    | a :: others, b :: more =>
      if run.isOver style then run
      else
        match style.compare (style.key false a) (style.key true b) with
        | .lt =>
          let run := (run.addAlone style false a).advance style false a others
          join style fuel others t { run with hasAlone := true }
        | .gt =>
          let run := (run.addAlone style true b).advance style true b more
          join style fuel s more { run with hasAlone := true }
        | .eq =>
          let isEqual (isSecond : Bool) (line : JoinLine) : Bool :=
            style.compare (style.key isSecond line) (style.key false a) = .eq
          let these := a :: others.takeWhile (isEqual false)
          let those := b :: more.takeWhile (isEqual true)
          let s := s.drop these.length
          let t := t.drop those.length
          let run := run.advance style false (these.getLastD a) s
          let run := if run.isOver style then run
            else run.advance style true (those.getLastD b) t
          if run.isOver style then run
          else if !style.together then join style fuel s t run
          else
            let pairs := these.flatMap fun line => those.map fun other => (line, other)
            join style fuel s t (pairs.foldl (fun run pair =>
              run.add (style.joined (some pair.1) (some pair.2))) run)

end JoinRun

namespace JoinStyle

/-- The place of a field by its number. -/
def place? (text : String) : Except String Nat :=
  match wholeNumber? text with
  | some (n + 1) => .ok n
  | _ => .error ("invalid field number: " ++ named text)

/-- The fields of joined lines that a text asks for. -/
def readFields (text : String) : Except String (List JoinedField) :=
  ((text.toList.splitOnP fun c => c = ',' || c = ' ' || c = '\t').filter (!·.isEmpty)).mapM
    fun field =>
      let word := String.ofList field
      match field with
      | ['0'] => .ok .common
      | '0' :: _ => .error ("invalid field specifier: " ++ named word)
      | c :: '.' :: digits =>
        if c = '1' ∨ c = '2' then do
          return .ofFile (c = '2') (← place? (String.ofList digits))
        else .error ("invalid file number in field spec: " ++ named word)
      | c :: _ =>
        if c = '1' ∨ c = '2' then .error ("invalid field specifier: " ++ named word)
        else .error ("invalid file number in field spec: " ++ named word)
      | [] => .ok .common

/-- The number of a file. -/
def fileNumber (text : String) : Except String Bool :=
  if text = "1" ∨ text = "2" then .ok (text = "2")
  else .error ("invalid field number: " ++ named text)

/-- The style that options and words for fields ask for. -/
def ofOptions (options : Arguments) (words : List String) : Except String JoinStyle := do
  let common ← (options.value? 'j').mapM place?
  let first ← (options.value? '1').mapM place?
  let second ← (options.value? '2').mapM place?
  let separator ←
    match (options.value? 't').map String.toList with
    | none => pure none
    | some [] => pure (some '\n')
    | some ['\\', '0'] => pure (some '\x00')
    | some [c] => pure (some c)
    | some text => throw ("multi-character tab " ++ named (String.ofList text))
  let fields ← ((options.values 'o').filter (· ≠ "auto") ++ words).mapM readFields
  let alone ← (options.values 'a').mapM fileNumber
  let only ← (options.values 'v').mapM fileNumber
  return {
    keys := ((first.or common).getD 0, (second.or common).getD 0)
    separator
    ignoresCase := options.has 'i'
    filler := ((options.value? 'e').getD "").toList
    fields := if fields.isEmpty then none else some fields.flatten
    alone := (false ∈ alone ++ only, true ∈ alone ++ only)
    together := only.isEmpty
    ordered := (options.last? ['C', 'N']).map (· == 'C') }

end JoinStyle

/-- Joins the lines of two files. -/
def joinFiles : State → List String → State :=
  State.withArguments ⟨['i', 'C', 'N', 'H', 'z'], ['1', '2', 'j', 't', 'a', 'v', 'e', 'o'],
    [("ignore-case", 'i'), ("check-order", 'C'), ("nocheck-order", 'N'), ("header", 'H'),
      ("zero-terminated", 'z')], true⟩ 1
    fun options s =>
      let spare := if options.has 'o' then options.operands.length - 2 else 0
      match JoinStyle.ofOptions options (options.operands.take spare),
          options.operands.drop spare with
      | .error message, _ => s.fault 1 message
      | .ok style, [first, second] =>
        let (sources, good, s) := s.readSources plainly [first, second]
        match good, sources with
        | true, [a, b] =>
          let these := style.read a.text
          let those := style.read b.text
          let style := if (options.values 'o').contains "auto" then
              { style with fields := some (style.fieldsLike these those) } else style
          let heads := options.has 'H' && !(these.isEmpty && those.isEmpty)
          let run :=
            if heads then JoinRun.start.add (style.joined these.head? those.head?) else .start
          let (these, those) := if heads then (these.tail, those.tail) else (these, those)
          let run := run.join style (these.length + those.length + 1) these those
          let tell (name : String) (line? : Option JoinLine) (s : State) : State :=
            line?.elim s fun line => s.complain (s.name ++ ": " ++ name ++ ":" ++
              toString line.number ++ ": is not sorted: " ++ String.ofList line.text)
          let s := tell second run.disorder.2 (tell first run.disorder.1 s)
          let s := s.print (joinLines run.lines.reverse)
          if run.isOver style then s.finish 1
          else if run.disorder.1.isSome ∨ run.disorder.2.isSome then
            s.fault 1 "input is not in sorted order"
          else s.finish 0
        | _, _ => s.finish 1
      | .ok _, [] => s.misused 1 "missing operand"
      | .ok _, [first] => s.misused 1 ("missing operand after " ++ named first)
      | .ok _, _ :: _ :: extra :: _ => s.misused 1 ("extra operand " ++ named extra)

end PluginBuild.Shell
