import PluginBuild.Shell.Regex
import PluginBuild.Shell.Sources
import PluginBuild.Text.Numeral
/-!
# Searching

The utility that prints the lines in which patterns are found.
-/

namespace PluginBuild.Shell

open Files (Failure Location Store)

/-- What is searched for in lines. -/
structure Search where
  regex : Regex
  /-- Whether a match has to be a whole line. -/
  wholeLines : Bool
  /-- Whether a match has to be made of whole words. -/
  wholeWords : Bool

namespace Search

/-- The match that starts at a position and fits, the longest one first. -/
def fittingEnd? (search : Search) (text : Array Char) (first : Nat) : Option Nat :=
  let isWord (index : Nat) : Bool := (text[index]?).any Regex.wordSet.contains
  let fits (last : Nat) : Bool :=
    (!search.wholeLines || (first = 0 && last = text.size)) &&
      (!search.wholeWords || (!(first ≠ 0 && isWord (first - 1)) && !isWord last))
  if search.regex.refersBack then
    (search.regex.matchFrom? text first).bind fun place =>
      if fits place.position then some place.position else none
  else ((search.regex.ends text [first]).filter fits).max?

/-- The first match from a position on, of `count` positions. -/
def findFrom? (search : Search) (text : Array Char) : Nat → Nat → Option (Nat × Nat)
  | 0, _ => none
  | count + 1, first =>
    match search.fittingEnd? text first with
    | some last => some (first, last)
    | none => findFrom? search text count (first + 1)

/-- Whether there is a match in a line. -/
def isIn (search : Search) (line : List Char) : Bool :=
  if search.wholeLines ∨ search.wholeWords then
    (search.findFrom? line.toArray (line.length + 1) 0).isSome
  else search.regex.isIn line

/-- The matches in a line that are not empty. `fuel` bounds their number. -/
def matches? (search : Search) (text : Array Char) : Nat → Nat → List (Nat × Nat)
  | 0, _ => []
  | fuel + 1, position =>
    match search.findFrom? text (text.size + 1 - position) position with
    | none => []
    | some (first, last) =>
      if first = last then matches? search text fuel (first + 1)
      else (first, last) :: matches? search text fuel last

end Search

/-- A line of a source that is printed, because of a match or beside one. -/
structure ShownLine where
  number : Nat
  /-- How many bytes are before the line. -/
  offset : Nat
  line : List Char
  isMatch : Bool

/-- The lines of a text with their numbers and offsets. -/
def locatedLines (number offset : Nat) : List (List Char) → List ShownLine
  | [] => []
  | line :: rest =>
    ⟨number, offset, line, true⟩ :: locatedLines (number + 1) (offset + line.length + 1) rest

/-- The first lines that are found, at most as many as `most` says. -/
def chosenLines (accept : List Char → Bool) (most : Option Nat) (lines : List ShownLine) :
    List ShownLine :=
  let found := lines.filter fun shown => accept shown.line
  most.elim found found.take

/-- The lines that are printed: those that are found, with some before and after each. -/
def withContext (before after : Nat) (found lines : List ShownLine) : List ShownLine :=
  let last := (found.getLast?.map ShownLine.number).getD 0
  let near := lines.filter fun shown =>
    found.any fun hit => hit.number ≤ shown.number + before && shown.number ≤ hit.number + after
  near.map fun shown =>
    { shown with isMatch := found.any (·.number = shown.number) && shown.number ≤ last }

/-- Lines in groups, with a line of dashes between those that do not follow each other. -/
def groupedText (text : ShownLine → List Char) (parts : Bool) : List ShownLine → List Char
  | a :: b :: rest =>
    text a ++ (if parts ∧ a.number + 1 < b.number then ['-', '-', '\n'] else []) ++
      groupedText text parts (b :: rest)
  | [a] => text a
  | [] => []

/-- The names of the files in a directory and below it. `fuel` bounds how deep that goes. -/
def filesBelow (files : Store) : Nat → Location → String → List String
  | 0, _, _ => []
  | fuel + 1, location, shown =>
    let names := (files.nodes.filterMap fun (other, _) =>
      if other ≠ [] ∧ other.dropLast = location then other.getLast? else none).mergeSort
        fun a b => a ≤ b
    names.flatMap fun name =>
      let path := if shown.isEmpty then name else shown ++ "/" ++ name
      match files.node? (location ++ [name]) with
      | some .directory => filesBelow files fuel (location ++ [name]) path
      | _ => [path]

/-- The options of the search. -/
def searchOptions : OptionStyle :=
  ⟨['E', 'F', 'G', 'P', 'i', 'y', 'v', 'w', 'x', 'c', 'l', 'L', 'q', 's', 'n', 'H', 'h', 'o', 'b',
      'r', 'R', 'a', 'I', 'z', 'Z', 'T', 'U', '1'], ['e', 'f', 'm', 'A', 'B', 'C', '2'],
    [("extended-regexp", 'E'), ("fixed-strings", 'F'), ("basic-regexp", 'G'),
      ("perl-regexp", 'P'), ("ignore-case", 'i'), ("invert-match", 'v'), ("word-regexp", 'w'),
      ("line-regexp", 'x'), ("count", 'c'), ("files-with-matches", 'l'),
      ("files-without-match", 'L'), ("quiet", 'q'), ("silent", 'q'), ("no-messages", 's'),
      ("line-number", 'n'), ("with-filename", 'H'), ("no-filename", 'h'), ("only-matching", 'o'),
      ("byte-offset", 'b'), ("recursive", 'r'), ("text", 'a'), ("regexp", 'e'), ("file", 'f'),
      ("max-count", 'm'), ("after-context", 'A'), ("before-context", 'B'), ("context", 'C'),
      ("null", 'Z'), ("null-data", 'z'), ("include", '2'), ("exclude", '2')], true⟩

/-- The expression of patterns, one of which has to match. -/
def regexOf (options : Arguments) (patterns : List (List Char)) : Except String Regex :=
  let style : RegexStyle :=
    { extended := (options.last? ['E', 'G', 'F', 'P']).any (· ∈ ['E', 'P'])
      ignoresCase := options.has 'i' || options.has 'y'
      needsBody := false
      escapesInSets := false }
  let one (pattern : List Char) : Except String Regex :=
    if options.last? ['E', 'G', 'F', 'P'] = some 'F' then
      .ok (pattern.foldr (fun c rest => .sequence (Regex.ofSet style (.single c)) rest) .empty)
    else Regex.ofText? style pattern
  match patterns with
  | [] => .error ""
  | first :: rest => do
    let regexes ← rest.mapM one
    return regexes.foldl Regex.either (← one first)

/-- What is printed about the lines in which something is found. -/
structure SearchReport where
  options : Arguments
  /-- What is searched for. Nothing is found where there is no pattern. -/
  search : Option Search
  /-- Whether the names of files are printed. -/
  labelled : Bool
  most : Option Nat
  /-- How many lines are printed before those that are found. -/
  ahead : Nat
  /-- How many lines are printed after those that are found. -/
  behind : Nat

namespace SearchReport

/-- The name of a source. -/
def title (source : Source) : List Char :=
  if source.name = "-" then "(standard input)".toList else source.name.toList

/-- Whether a line is one to find. -/
def accepts (report : SearchReport) (line : List Char) : Bool :=
  (report.search.any fun search => search.isIn line) != report.options.has 'v'

/-- The character that ends lines. -/
def mark (report : SearchReport) : Char := if report.options.has 'z' then '\x00' else '\n'

/-- The lines of a source. -/
def lines (report : SearchReport) (source : Source) : List ShownLine :=
  let pieces := splitAt report.mark source.text
  locatedLines 1 0 (if pieces.getLast? = some [] then pieces.dropLast else pieces)

/-- The lines that are found in a source. -/
def found (report : SearchReport) (source : Source) : List ShownLine :=
  chosenLines report.accepts report.most (report.lines source)

/-- What is printed before a line. -/
def label (report : SearchReport) (source : Source) (mark : Char) (shown : ShownLine) :
    List Char :=
  (if report.labelled then title source ++ [mark] else []) ++
    (if report.options.has 'n' then (toString shown.number).toList ++ [mark] else []) ++
    (if report.options.has 'b' then (toString shown.offset).toList ++ [mark] else [])

/-- The matches in a line, each in a line of its own. -/
def parts (report : SearchReport) (source : Source) (shown : ShownLine) : List Char :=
  let text := shown.line.toArray
  let hits := report.search.elim [] fun search => search.matches? text (text.size + 1) 0
  hits.flatMap fun (first, last) =>
    report.label source ':' { shown with offset := shown.offset + first } ++
      (text.extract first last).toList ++ [report.mark]

/-- What is printed of a line. -/
def lineText (report : SearchReport) (source : Source) (shown : ShownLine) : List Char :=
  if report.options.has 'o' then
    if shown.isMatch ∧ !report.options.has 'v' then report.parts source shown else []
  else
    report.label source (if shown.isMatch then ':' else '-') shown ++ shown.line ++
      [report.mark]

/-- The state after the report about a source, and whether there was something to report. -/
def print (report : SearchReport) (s : State) (source : Source) : State × Bool :=
  let found := report.found source
  let any := !found.isEmpty
  let has := report.options.has
  let ending : Char := if has 'Z' then '\x00' else '\n'
  if has 'q' then (s, any)
  else if has 'l' then (if any then s.print (title source ++ [ending]) else s, any)
  else if has 'L' then (if any then s else s.print (title source ++ [ending]), any)
  else if has 'c' then
    (s.print ((if report.labelled then title source ++ [':'] else []) ++
      (toString found.length).toList ++ ['\n']), any)
  else if '\x00' ∈ source.text ∧ !has 'a' ∧ !has 'z' ∧ any then
    (s.complain ("grep: " ++ String.ofList (title source) ++ ": binary file matches"), any)
  else
    let inContext := report.behind ≠ 0 || report.ahead ≠ 0
    let shown :=
      if inContext then
        withContext report.ahead report.behind found (report.lines source)
      else found
    (s.print (groupedText (report.lineText source) inContext shown), any)

end SearchReport

/-- The state after a message of the search. -/
def searchFault (s : State) (message : String) : State :=
  (s.complain ("grep: " ++ message)).finish 2

/-- The state after the search was not used as it has to be. -/
def searchUsage (s : State) : State :=
  ((s.complain "Usage: grep [OPTION]... PATTERNS [FILE]...").complain
    "Try 'grep --help' for more information.").finish 2

/-- The patterns that options and operands give, or what is wrong with them. -/
def searchPatterns (s : State) (options : Arguments) : Except String (List (List Char)) := do
  let given := options.has 'e' || options.has 'f'
  let texts := if given then options.values 'e' else options.operands.take 1
  let ofFiles ← (options.values 'f').mapM fun file =>
    match s.readSource file with
    | (.ok text, _) => .ok (linesOf text)
    | (.error failure, _) => .error (file ++ ": " ++ failure.reason)
  return texts.flatMap (splitAt '\n' ·.toList) ++ ofFiles.flatten

/-- The number that is the value of an option. -/
def searchNumber (options : Arguments) (letter : Char) : Except String (Option Nat) :=
  match options.value? letter with
  | none => .ok none
  | some value =>
    match wholeNumber? value with
    | some n => .ok (some n)
    | none => .error (if letter = 'm' then "invalid max count"
        else value ++ ": invalid context length argument")

/-- The names of the files that are searched. -/
def searchedNames (s : State) (options : Arguments) (names : List String) : List String :=
  if !(options.has 'r' || options.has 'R') then names
  else if names.isEmpty then filesBelow s.files 100 s.files.workingDirectory ""
  else
    names.flatMap fun name =>
      match s.files.locate (pathOf name), s.files.find (pathOf name) with
      | .ok location, .ok .directory => filesBelow s.files 100 location name
      | _, _ => [name]

/-- What is reported about a search, or what is wrong with the options. -/
def searchReport (s : State) (options : Arguments) (labelled : Bool) :
    Except String SearchReport := do
  let patterns ← searchPatterns s options
  let most ← searchNumber options 'm'
  let context := (← searchNumber options 'C').getD 0
  let behind := (← searchNumber options 'A').getD context
  let ahead := (← searchNumber options 'B').getD context
  let search ←
    if patterns.isEmpty then pure none
    else do
      let regex ← regexOf options patterns
      pure (some (Search.mk regex (options.has 'x') (options.has 'w')))
  return { options, search, labelled, most, ahead, behind }

/-- Prints the lines in which patterns are found, and succeeds if there is one. -/
def grep (s : State) (arguments : List String) : State :=
  let isColour (argument : String) : Bool :=
    argument.startsWith "--color" || argument.startsWith "--colour"
  match Arguments.read searchOptions (arguments.filter (!isColour ·)) with
  | .error message => searchUsage (searchFault s message)
  | .ok options =>
    let given := options.has 'e' || options.has 'f'
    if !given ∧ options.operands.isEmpty then searchUsage s
    else
      let names := if given then options.operands else options.operands.tail
      let inputs := searchedNames s options names
      let labelled := !options.has 'h' && (options.has 'H' || inputs.length > 1 ||
        ((options.has 'r' || options.has 'R') && names ≠ ["-"]))
      match searchReport s options labelled with
      | .error message => searchFault s message
      | .ok report =>
        let reading := if options.has 's' then { s with name := "grep" }.close 2
          else { s with name := "grep" }
        let (sources, good, after) := reading.readSources
          (fun file failure => file ++ ": " ++ failure.reason) inputs
        let s := { after with name := s.name, table := s.table, lost := s.lost }
        let (s, any) := sources.foldl (fun (s, any) source =>
          let (s, found) := report.print s source
          (s, any || found)) (s, false)
        s.finish (if !good && !(options.has 'q' && any) then 2 else if any then 0 else 1)

/-- Searches as an option says, and tells that there is another name for that. -/
def grepAs (name option : String) (s : State) (arguments : List String) : State :=
  grep (s.complain (name ++ ": warning: " ++ name ++ " is obsolescent; using grep " ++ option))
    (option :: arguments)

end PluginBuild.Shell
