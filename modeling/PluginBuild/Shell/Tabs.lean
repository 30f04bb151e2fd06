import PluginBuild.Shell.FileTools
import PluginBuild.Text.Lines
/-!
# Tabs

The utilities that put spaces in the place of tabs, and tabs in the place of spaces.
-/

namespace PluginBuild.Shell

/-- The columns at which tabs end. -/
structure TabStops where
  /-- The stops that are given one by one. -/
  columns : List Nat
  /-- The distance of the stops that follow, and whether that counts from the last stop and not
  from the start of the line. -/
  others : Option (Nat × Bool)

namespace TabStops

/-- Stops at every eighth column. -/
def usual : TabStops := ⟨[], some (8, false)⟩

/-- The stops with those of a word more. -/
def addWord (stops : TabStops) (word : List Char) : Except String TabStops := do
  let sign := word.head?.filter fun c => c = '/' || c = '+'
  let digits := if sign.isSome then word.tail else word
  match Text.digits? 10 digits with
  | none =>
    throw ("tab size contains invalid character(s): " ++
      named (String.ofList (digits.dropWhile Char.isDigit)))
  | some n =>
    if 18446744073709551615 < n then
      throw ("tab stop is too large " ++ named (String.ofList digits))
    else if sign.isSome then return { stops with others := some (n, sign = some '+') }
    else if n = 0 then throw "tab size cannot be 0"
    else if stops.columns.getLast?.any (n ≤ ·) then throw "tab sizes must be ascending"
    else return { stops with columns := stops.columns ++ [n] }

/-- The stops of lists of columns. One column alone is the distance of all stops. -/
def read (lists : List String) : Except String TabStops := do
  let words := lists.flatMap fun list =>
    (list.toList.splitOnP fun c => c = ',' || isSpace c).filter (!·.isEmpty)
  match ← words.foldlM addWord ⟨[], none⟩ with
  | ⟨[], none⟩ => return usual
  | ⟨[n], none⟩ => return ⟨[], some (n, false)⟩
  | stops => return stops

/-- The stop after a column, if there is one. -/
def after? (stops : TabStops) (column : Nat) : Option Nat :=
  (stops.columns.find? (column < ·)).or (stops.others.bind fun (distance, fromLast) =>
    let last := if fromLast then stops.columns.getLastD 0 else 0
    if distance = 0 then none
    else some (last + ((column - last) / distance + 1) * distance))

/-- A line with spaces in the place of tabs, from a column on. `leads` tells whether only blanks
precede. -/
def expand (stops : TabStops) (onlyFirst leads : Bool) (column : Nat) : List Char → List Char
  | [] => []
  | c :: rest =>
    let leads := leads && (c = ' ' || c = '\t')
    if c = '\t' ∧ (!onlyFirst ∨ leads) then
      let next := (stops.after? column).getD (column + 1)
      List.replicate (next - column) ' ' ++ stops.expand onlyFirst leads next rest
    else
      let next := if c = '\x08' then column - 1 else column + 1
      c :: stops.expand onlyFirst leads next rest

/-- Spaces that are not written yet. If the first one ends at a stop, which `atStop` tells, and more
follow, then it is a tab. -/
def keptBlanks (atStop : Bool) (blanks : List Char) : List Char :=
  if atStop ∧ 1 < blanks.length then '\t' :: blanks.tail else blanks

/-- A line with tabs in the place of the blanks before stops, from a column on. `blanks` are those
that are not written yet, `atStop` tells whether the first of them ends at a stop, and `afterBlank`
whether a blank or the start of the line precedes. -/
def unexpand (stops : TabStops) (onlyFirst : Bool) (column : Nat) (blanks : List Char)
    (atStop afterBlank : Bool) : List Char → List Char
  | [] => keptBlanks atStop blanks
  | c :: rest =>
    let tabs := if atStop then ['\t', '\t'] else ['\t']
    if c = ' ' ∨ c = '\t' then
      match stops.after? column with
      | none => keptBlanks atStop blanks ++ c :: rest
      | some stop =>
        if c = '\t' then tabs ++ stops.unexpand onlyFirst stop [] false true rest
        else if afterBlank ∧ column + 1 = stop then
          tabs ++ stops.unexpand onlyFirst stop [] false true rest
        else
          stops.unexpand onlyFirst (column + 1) (blanks ++ [c]) (atStop || column + 1 = stop) true
            rest
    else
      keptBlanks atStop blanks ++ c ::
        if onlyFirst then rest
        else
          let next := if c = '\x08' then column - 1 else column + 1
          stops.unexpand onlyFirst next [] false false rest

end TabStops

/-- The arguments with columns after a dash as values of an option of their own. -/
def withColumns : List String → List String
  | [] => []
  | "--" :: rest => "--" :: rest
  | argument :: rest =>
    (match argument.toList with
      | '-' :: c :: more =>
        if c.isDigit then ["-T", String.ofList (c :: more)] else [argument]
      | _ => [argument]) ++ withColumns rest

/-- Changes the blanks of lines. -/
def changeBlanks (style : OptionStyle)
    (change : Arguments → TabStops → List Char → List Char) (s : State)
    (arguments : List String) : State :=
  State.withArguments style 1
    (fun options s =>
      match TabStops.read ((options.options.filter fun option =>
        option.1 = 't' || option.1 = 'T').map (·.2)) with
      | .error message => s.fault 1 message
      | .ok stops =>
        let (sources, good, s) := s.readSources plainly options.operands
        let lines := sources.flatMap fun source => Text.physicalLines source.text
        (s.print (lines.flatMap (change options stops))).finish (if good then 0 else 1))
    s (withColumns arguments)

/-- Puts spaces in the place of tabs. -/
def expandTabs : State → List String → State :=
  changeBlanks ⟨['i'], ['t', 'T'], [("initial", 'i'), ("tabs", 't')], true⟩
    fun options stops line => stops.expand (options.has 'i') true 0 line

/-- Puts tabs in the place of spaces. -/
def putTabs : State → List String → State :=
  changeBlanks ⟨['a', 'f'], ['t', 'T'], [("all", 'a'), ("first-only", 'f'), ("tabs", 't')], true⟩
    fun options stops line =>
      let everywhere := (options.has 'a' || options.has 't') && !options.has 'f'
      stops.unexpand (!everywhere) 0 [] false true line

end PluginBuild.Shell
