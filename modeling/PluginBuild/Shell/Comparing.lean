import PluginBuild.Shell.FileTools
import PluginBuild.Shell.Sorting
import PluginBuild.Text.Lines
/-!
# Comparing files

The utilities that tell where files differ, and which lines they have in common.
-/

namespace PluginBuild.Shell

/-- The first place where texts differ, with the number of its line. Both count from one. -/
def difference? (place line : Nat) : List Char → List Char → Option (Nat × Nat)
  | a :: s, b :: t =>
    if a = b then difference? (place + 1) (if a = '\n' then line + 1 else line) s t
    else some (place, line)
  | _, _ => none

/-- Compares two files byte by byte. -/
def cmp (s : State) (arguments : List String) : State :=
  State.withArguments ⟨['s', 'b'], [], [("silent", 's'), ("quiet", 's')], true⟩ 2
    (fun options s =>
      match options.operands with
      | [] => (s.fault 2 ("missing operand after " ++ named s.name)).complain
          (s.name ++ ": Try '" ++ s.name ++ " --help' for more information.")
      | first :: rest =>
        let second := rest.headD "-"
        let (sources, good, s) := s.readSources plainly [first, second]
        match sources with
        | [a, b] =>
          let told (s : State) (say : State → State) : State :=
            (if options.has 's' then s else say s).finish 1
          match difference? 1 1 a.text b.text with
          | some (place, line) =>
            told s fun s => s.print (first ++ " " ++ second ++ " differ: char " ++ toString place ++
              ", line " ++ toString line ++ "\n").toList
          | none =>
            if a.text.length = b.text.length then s.finish 0
            else
              let (name, text) := if a.text.length < b.text.length then (first, a.text)
                else (second, b.text)
              told s fun s => s.complain (s.name ++ ": EOF on " ++ name ++
                (if text.isEmpty then " which is empty" else " after byte " ++
                  toString text.length ++ ", " ++ (if text.getLast? = some '\n' then "line " else
                    "in line ") ++ toString (text.count '\n' +
                      if text.getLast? = some '\n' then 0 else 1)))
        | _ => s.finish (if good then 0 else 2))
    s arguments

/-- A line that is compared by another text than its own. -/
structure ComparedLine where
  key : List Char
  text : List Char

/-- The rows of the table of longest common parts: for each end of the second text how many lines
it has in common with an end of the first one, the whole second text first. -/
def commonRows (t : List ComparedLine) : List ComparedLine → List (List Nat)
  | [] => [List.replicate (t.length + 1) 0]
  | a :: s =>
    match commonRows t s with
    | [] => []
    | below :: rows =>
      let row := ((t.zip (below.zip below.tail)).foldr (fun (b, here, next) row =>
        (if a.key = b.key then next + 1 else max here (row.headD 0)) :: row) [0])
      row :: below :: rows

/-- A change from some lines to others, with the numbers of the lines before both. -/
structure LineChange where
  first : Nat
  second : Nat
  removed : List (List Char)
  added : List (List Char)

/-- The changes from lines to others. `change?` is the change that goes on. -/
def lineChanges (change? : Option LineChange) (i j : Nat) :
    Nat → List (List Nat) → List ComparedLine → List ComparedLine → List LineChange
  | 0, _, _, _ => change?.toList
  | fuel + 1, rows, s, t =>
    let change := change?.getD ⟨i, j, [], []⟩
    let remove (a : ComparedLine) (s : List ComparedLine) : List LineChange :=
      lineChanges (some { change with removed := change.removed ++ [a.text] }) (i + 1) j fuel
        rows.tail s t
    let add (b : ComparedLine) (t : List ComparedLine) : List LineChange :=
      lineChanges (some { change with added := change.added ++ [b.text] }) i (j + 1) fuel
        (rows.map List.tail) s t
    match s, t with
    | [], [] => change?.toList
    | a :: s, [] => remove a s
    | [], b :: t => add b t
    | a :: others, b :: more =>
      let below := ((rows.tail.headD []).headD 0)
      let beside := ((rows.headD []).tail.headD 0)
      if a.key = b.key then
        change?.toList ++
          lineChanges none (i + 1) (j + 1) fuel (rows.tail.map List.tail) others more
      else if beside ≤ below then remove a others
      else add b more

namespace LineChange

/-- The numbers of lines after a number. -/
def numbers (before count : Nat) : String :=
  if count = 0 then toString before
  else if count = 1 then toString (before + 1)
  else toString (before + 1) ++ "," ++ toString (before + count)

/-- Lines with a sign before each. A line without a line break at its end is marked. -/
def signed (sign : String) (lines : List (List Char)) : List Char :=
  lines.flatMap fun line =>
    sign.toList ++ line ++
      (if line.getLast? = some '\n' then [] else "\n\\ No newline at end of file\n".toList)

/-- How a change is printed. -/
def text (change : LineChange) : List Char :=
  let letter := if change.removed.isEmpty then "a" else if change.added.isEmpty then "d" else "c"
  (numbers change.first change.removed.length ++ letter ++
    numbers change.second change.added.length ++ "\n").toList ++ signed "< " change.removed ++
    (if letter = "c" then "---\n".toList else []) ++ signed "> " change.added

/-- The number of the first line of a part and the count of its lines. -/
def extent (before count : Nat) : String :=
  if count = 1 then toString (before + 1)
  else toString (if count = 0 then before else before + 1) ++ "," ++ toString count

/-- Changes in groups between which there are more than twice as many lines as there is context. -/
def groups (context : Nat) : List LineChange → List (List LineChange)
  | [] => []
  | change :: rest =>
    match groups context rest with
    | [] => [[change]]
    | group :: others =>
      let stop := change.first + change.removed.length
      if group.head?.any fun next => next.first ≤ stop + 2 * context then
        (change :: group) :: others
      else [change] :: group :: others

/-- The lines of changes with those between them, from a line of the first file on. -/
def withLinesBetween (before : List (List Char)) (place : Nat) :
    List LineChange → List Char
  | [] => []
  | change :: rest =>
    signed " " ((before.drop place).take (change.first - place)) ++ signed "-" change.removed ++
      signed "+" change.added ++
      withLinesBetween before (change.first + change.removed.length) rest

/-- How a group of changes is printed with context. -/
def groupText (context : Nat) (before : List (List Char)) (group : List LineChange) : List Char :=
  match group.head?, group.getLast? with
  | some head, some last =>
    let start := head.first - context
    let lead := head.first - start
    let stop := min before.length (last.first + last.removed.length + context)
    let place := last.first + last.removed.length
    let added := total (group.map fun change => change.added.length)
    let removed := total (group.map fun change => change.removed.length)
    let count := stop - start
    ("@@ -" ++ extent start count ++ " +" ++
      extent (head.second - lead) (count + added - removed) ++ " @@\n").toList ++
      withLinesBetween before start group ++
      signed " " ((before.drop place).take (stop - place))
  | _, _ => []

end LineChange

/-- The text by which a line is compared. -/
def comparedKey (options : Arguments) (line : List Char) : List Char :=
  let line := if options.has 'i' then line.map Char.toLower else line
  if options.has 'w' then line.filter (!isSpace ·)
  else if options.has 'b' then
    [' '].intercalate (((if line.head?.any isSpace then [[]] else []) : List (List Char)) ++
      (line.splitOnP isSpace).filter (!·.isEmpty))
  else line

/-- The lines that tell which files are compared. -/
def comparedNames (options : Arguments) (first second : String) : List Char :=
  let labels := options.values 'L'
  let line (sign name : String) (label? : Option String) : String :=
    sign ++ " " ++ label?.getD (name ++ "\t1970-01-01 00:00:00.000000000 +0000") ++ "\n"
  (line "---" first labels.head? ++ line "+++" second labels[1]?).toList

/-- Prints how two files differ. -/
def diff (s : State) (arguments : List String) : State :=
  State.withArguments ⟨['q', 's', 'b', 'w', 'i', 'r', 'N', 'a', 'B', 'u'], ['U', 'L'],
    [("brief", 'q'), ("report-identical-files", 's'), ("unified", 'u'), ("label", 'L'),
      ("ignore-case", 'i'), ("ignore-all-space", 'w'), ("ignore-space-change", 'b'),
      ("recursive", 'r'), ("new-file", 'N'), ("text", 'a')], true⟩ 2
    (fun options s =>
      match options.operands with
      | [first, second] =>
        let (sources, _, s) := s.readSources plainly [first, second]
        match sources with
        | [a, b] =>
          let compared (text : List Char) : List ComparedLine :=
            (Text.physicalLines text).map fun line => ⟨comparedKey options line, line⟩
          let before := compared a.text
          let after := compared b.text
          if before.map ComparedLine.key = after.map ComparedLine.key then
            (if options.has 's' then s.print ("Files " ++ first ++ " and " ++ second ++
              " are identical\n").toList else s).finish 0
          else if options.has 'q' then
            (s.print ("Files " ++ first ++ " and " ++ second ++ " differ\n").toList).finish 1
          else
            let changes := lineChanges none 0 0 (before.length + after.length + 1)
              (commonRows after before) before after
            let context := (options.value? 'U').bind wholeNumber?
            let text :=
              if options.has 'u' ∨ context.isSome then
                let context := context.getD 3
                comparedNames options first second ++
                  (LineChange.groups context changes).flatMap
                    (LineChange.groupText context (before.map ComparedLine.text))
              else changes.flatMap LineChange.text
            (s.print text).finish 1
        | _ => s.finish 2
      | [] => s.misused 2 ("missing operand after " ++ named s.name)
      | [first] => s.misused 2 ("missing operand after " ++ named first)
      | _ :: _ :: extra :: _ => s.misused 2 ("extra operand " ++ named extra))
    s arguments

/-- What is known of sorted texts whose lines are brought together. -/
structure CommonRun where
  /-- The lines with their columns, the last one first: of the first text, of the second one and of
  both. -/
  lines : List (Nat × List Char)
  /-- Whether a line has been met that is in one text only. -/
  hasAlone : Bool
  /-- Whether lines of the first text, and of the second one, are not in order. -/
  disorder : Bool × Bool

namespace CommonRun

/-- Whether two lines are in the wrong order. -/
def isWrong (a b : List Char) : Bool := Comparison.compareTexts a b = .gt

/-- The next line of a text is read, after a line and the one before that. -/
def advance (ordered : Option Bool) (isSecond : Bool) (before : Option (List Char))
    (line : List Char) (rest : List (List Char)) (run : CommonRun) : CommonRun :=
  let isChecked := ordered.getD run.hasAlone
  let wrong := isChecked &&
    match rest with
    | next :: _ => isWrong line next
    | [] => before.any fun before => isWrong before line
  if !wrong then run
  else if isSecond then { run with disorder := (run.disorder.1, true) }
  else { run with disorder := (true, run.disorder.2) }

/-- The lines of sorted texts brought together. `before` and `earlier` are the lines before those of
the first and the second text. `fuel` bounds the number of steps. -/
def merge (ordered : Option Bool) (before earlier : Option (List Char)) :
    Nat → List (List Char) → List (List Char) → CommonRun → CommonRun
  | 0, _, _, run => run
  | fuel + 1, s, t, run =>
    if ordered = some true ∧ (run.disorder.1 ∨ run.disorder.2) then run
    else
      let first (a : List Char) (others : List (List Char)) : CommonRun :=
        let run := { run with lines := (0, a) :: run.lines, hasAlone := true }
        merge ordered (some a) earlier fuel others t
          (run.advance ordered false before a others)
      let second (b : List Char) (more : List (List Char)) : CommonRun :=
        let run := { run with lines := (1, b) :: run.lines, hasAlone := true }
        merge ordered before (some b) fuel s more (run.advance ordered true earlier b more)
      match s, t with
      | [], [] => run
      | a :: others, [] => first a others
      | [], b :: more => second b more
      | a :: others, b :: more =>
        match Comparison.compareTexts a b with
        | .lt => first a others
        | .gt => second b more
        | .eq =>
          let run := { run with lines := (2, a) :: run.lines }
          let run := run.advance ordered false before a others
          merge ordered (some a) (some b) fuel others more
            (run.advance ordered true earlier b more)

end CommonRun

/-- Prints the lines that sorted files have alone or in common. -/
def comm (s : State) (arguments : List String) : State :=
  State.withArguments ⟨['1', '2', '3', 'C', 'N', 'T', 'z'], ['D'],
    [("check-order", 'C'), ("nocheck-order", 'N'), ("total", 'T'), ("output-delimiter", 'D'),
      ("zero-terminated", 'z')], true⟩ 1
    (fun options s =>
      match options.operands with
      | [first, second] =>
        let (sources, good, s) := s.readSources plainly [first, second]
        match good, sources with
        | true, [a, b] =>
          let ordered : Option Bool := (options.last? ['C', 'N']).map (· == 'C')
          let run := CommonRun.merge ordered none none (a.text.length + b.text.length + 3)
            (linesOf a.text) (linesOf b.text) ⟨[], false, (false, false)⟩
          let isHidden (column : Nat) : Bool := options.has (Char.ofNat ('1'.toNat + column))
          let mark := ((options.value? 'D').getD "\t").toList
          let shown := run.lines.reverse.filterMap fun (column, line) =>
            if isHidden column then none
            else some (((List.range column).filter (!isHidden ·)).flatMap (fun _ => mark) ++ line)
          let count (column : Nat) : List Char :=
            (toString (run.lines.filter (·.1 = column)).length).toList
          let counts := if options.has 'T' then
              [mark.intercalate [count 0, count 1, count 2, "total".toList]] else []
          let isFatal := ordered = some true && (run.disorder.1 || run.disorder.2)
          let s := s.print (joinLines (shown ++ if isFatal then [] else counts))
          let tell (isWrong : Bool) (number : String) (s : State) : State :=
            if isWrong then s.complain (s.name ++ ": file " ++ number ++ " is not in sorted order")
            else s
          let s := tell run.disorder.2 "2" (tell run.disorder.1 "1" s)
          if isFatal then s.finish 1
          else if run.disorder.1 ∨ run.disorder.2 then s.fault 1 "input is not in sorted order"
          else s.finish 0
        | _, _ => s.finish 1
      | [] => s.misused 1 "missing operand"
      | [first] => s.misused 1 ("missing operand after " ++ named first)
      | _ :: _ :: extra :: _ => s.misused 1 ("extra operand " ++ named extra))
    s arguments

end PluginBuild.Shell
