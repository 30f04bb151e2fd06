import PluginBuild.Shell.Sources
import PluginBuild.Text.Lines
import PluginBuild.Text.Numeral
/-!
# Copying utilities

The utilities that print what they read, in whole or in part, or how much of it there is.
-/

namespace PluginBuild.Shell

open Files (Failure)

/-- A number in a column of a width. -/
def inColumn (width : Nat) (n : Nat) : List Char :=
  let digits := (toString n).toList
  List.replicate (width - digits.length) ' ' ++ digits

/-- The visible form of a character. -/
def visible (tabs others : Bool) (c : Char) : List Char :=
  let low (n : Nat) : List Char :=
    if n < 32 then ['^', Char.ofNat (n + 64)] else if n = 127 then ['^', '?'] else [Char.ofNat n]
  if c = '\n' then [c]
  else if c = '\t' then if tabs then ['^', 'I'] else [c]
  else if !others then [c]
  else if c.toNat < 128 then low c.toNat
  else 'M' :: '-' :: low (c.toNat - 128)

/-- Lines without those that are empty and follow another empty one. -/
def squeezed (wasEmpty : Bool) : List (List Char) → List (List Char)
  | [] => []
  | line :: rest =>
    if line = ['\n'] ∧ wasEmpty then squeezed true rest
    else line :: squeezed (line = ['\n']) rest

/-- Lines with their numbers before them. -/
def numbered (all : Bool) (n : Nat) : List (List Char) → List Char
  | [] => []
  | line :: rest =>
    if !all ∧ line = ['\n'] then line ++ numbered all n rest
    else inColumn 6 n ++ '\t' :: line ++ numbered all (n + 1) rest

/-- Prints what files or the input hold. -/
def cat (s : State) (arguments : List String) : State :=
  State.withArguments ⟨['n', 'b', 'E', 'A', 's', 'T', 'v', 'e', 't', 'u'], [],
    [("number", 'n'), ("number-nonblank", 'b'), ("show-ends", 'E'), ("show-all", 'A'),
      ("squeeze-blank", 's'), ("show-tabs", 'T'), ("show-nonprinting", 'v')], true⟩ 1
    (fun options s =>
      let (sources, good, s) := s.readSources plainly options.operands
      let text := sources.flatMap Source.text
      if options.options.isEmpty then (s.print text).finish (if good then 0 else 1)
      else
        let has (letters : List Char) : Bool := letters.any options.has
        let shown (c : Char) : List Char :=
          if c = '\n' ∧ has ['E', 'A', 'e'] then ['$', '\n']
          else visible (has ['T', 'A', 't']) (has ['v', 'A', 'e', 't']) c
        let lines := Text.physicalLines text
        let lines := if options.has 's' then squeezed false lines else lines
        let display (line : List Char) : List Char := line.flatMap shown
        let text :=
          if has ['b'] then numbered false 1 lines
          else if has ['n'] then numbered true 1 lines
          else lines.flatten
        (s.print (display text)).finish (if good then 0 else 1))
    s arguments

/-- How many lines or bytes a utility prints. -/
structure Amount where
  count : Nat
  /-- Whether bytes are counted. -/
  bytes : Bool
  /-- The sign before the number. -/
  sign : Option Char

namespace Amount

/-- The amount that a text is, with a letter for a power of two. -/
def ofText? (bytes : Bool) (text : List Char) : Option Amount :=
  let sign := text.head?.filter fun c => c = '+' || c = '-'
  let rest := if sign.isSome then text.tail else text
  let digits := rest.takeWhile Char.isDigit
  let unit : Option Nat :=
    match rest.drop digits.length with
    | [] => some 1
    | ['b'] => some 512
    | ['k'] | ['K'] => some 1024
    | ['M'] => some 1048576
    | _ => none
  match Text.digits? 10 digits, unit with
  | some n, some unit => some ⟨n * unit, bytes, sign⟩
  | _, _ => none

/-- The amount that options ask for. -/
def ofArguments (arguments : Arguments) : Except String Amount :=
  match arguments.last? ['n', 'c'] with
  | none => .ok ⟨10, false, none⟩
  | some letter =>
    let value := (arguments.value? letter).getD ""
    match ofText? (letter = 'c') value.toList with
    | some amount => .ok amount
    | none => .error ("invalid number of " ++ (if letter = 'c' then "bytes" else "lines") ++
        ": '" ++ value ++ "'")

/-- The first part of a text. -/
def first (amount : Amount) (text : List Char) : List Char :=
  let pieces := if amount.bytes then text.map fun c => [c] else Text.physicalLines text
  let count := if amount.sign = some '-' then pieces.length - amount.count else amount.count
  (pieces.take count).flatten

/-- The last part of a text. -/
def last (amount : Amount) (text : List Char) : List Char :=
  let pieces := if amount.bytes then text.map fun c => [c] else Text.physicalLines text
  let count := if amount.sign = some '+' then amount.count - 1 else pieces.length - amount.count
  (pieces.drop count).flatten

end Amount

/-- Arguments with a number right after the first dash as the option that it stands for. -/
def withCount (signs : List Char) : List String → List String
  | [] => []
  | first :: rest =>
    match first.toList with
    | sign :: c :: more =>
      if sign ∈ signs ∧ c.isDigit then
        let number := if sign = '+' then sign :: c :: more else c :: more
        let digits := number.filter fun c => c.isDigit || c = '+'
        (if 'c' ∈ more then "-c" else "-n") :: String.ofList digits :: rest
      else first :: rest
    | _ => first :: rest

/-- Prints a part of each source. -/
def printParts (signs : List Char) (part : Amount → List Char → List Char) (s : State)
    (arguments : List String) : State :=
  State.withArguments ⟨['q', 'v', 'f', 'F', 'z'], ['n', 'c'],
    [("lines", 'n'), ("bytes", 'c'), ("quiet", 'q'), ("silent", 'q'), ("verbose", 'v')], true⟩ 1
    (fun options s =>
      match Amount.ofArguments options with
      | .error message => s.fault 1 message
      | .ok amount =>
        let (sources, good, s) := s.readSources atOpening options.operands
        let titles := (options.operands.length > 1 ∨ options.has 'v') ∧ !options.has 'q'
        let shown (source : Source) : List Char :=
          let name := if source.name = "-" then "standard input" else source.name
          (if titles then ("==> " ++ name ++ " <==\n").toList else []) ++ part amount source.text
        (s.print ((if titles then ['\n'] else []).intercalate (sources.map shown))).finish
          (if good then 0 else 1))
    s (withCount signs arguments)

/-- Prints the first lines or bytes. -/
def head : State → List String → State := printParts ['-'] Amount.first

/-- Prints the last lines or bytes. -/
def tail (s : State) (arguments : List String) : State :=
  match arguments.map String.toList with
  | ('-' :: c :: _) :: _ :: _ :: _ =>
    if c.isDigit then s.fault 1 ("option used in invalid context -- " ++ String.ofList [c])
    else printParts ['-', '+'] Amount.last s arguments
  | _ => printParts ['-', '+'] Amount.last s arguments

/-- Copies the input to the output and to files. -/
def tee (s : State) (arguments : List String) : State :=
  State.withArguments ⟨['a', 'i', 'p'], [], [("append", 'a')], true⟩ 1
    (fun options s =>
      let (text, s) := s.takeInput
      let s := (s.print text).finish 0
      options.operands.foldl (fun s name =>
        let before :=
          if options.has 'a' then
            match s.files.read (pathOf name) with
            | .ok content => ofBytes content.toBytes
            | .error _ => []
          else []
        match s.save name (before ++ text) with
        | .ok s => s
        | .error failure => s.fault 1 (plainly name failure)) s)
    s arguments

/-- The words of a text. -/
def wordsOf (text : List Char) : List (List Char) := (text.splitOnP isSpace).filter (!·.isEmpty)

/-- The counts of a text: lines, words, characters, bytes and the length of the longest line. -/
def countsOf (letters : List Char) (text : List Char) : List Nat :=
  let pick (letter : Char) (count : Nat) : List Nat := if letter ∈ letters then [count] else []
  pick 'l' (text.count '\n') ++ pick 'w' (wordsOf text).length ++ pick 'm' text.length ++
    pick 'c' text.length ++ pick 'L' (((linesOf text).map List.length).max?.getD 0)

/-- Counts lines, words and bytes. -/
def wc (s : State) (arguments : List String) : State :=
  State.withArguments ⟨['l', 'w', 'c', 'm', 'L'], [],
    [("lines", 'l'), ("words", 'w'), ("bytes", 'c'), ("chars", 'm'), ("max-line-length", 'L')],
    true⟩ 1
    (fun options s =>
      let chosen := options.options.map (·.1)
      let letters := if chosen.isEmpty then ['l', 'w', 'c'] else chosen.eraseDups
      let names := options.operands
      let inputIsFile : Bool := (s.stream? 0).any fun
        | (_, .source _ isFile) => isFile
        | (_, .file ..) => true
        | _ => false
      let size? (name : String) : Option Nat :=
        if name = "-" then if inputIsFile then some (s.left 0).length else none
        else (s.files.read (pathOf name)).toOption.map fun content => content.toBytes.length
      let isThere (name : String) : Bool := name = "-" || s.files.contains (pathOf name)
      let all := if names.isEmpty then ["-"] else names
      let width :=
        if (all.length = 1 ∧ letters.length = 1) ∨ !all.head?.all isThere then 1
        else
          let there := all.filter isThere
          let size := total (there.filterMap size?)
          let least := if there.all fun name => (size? name).isSome then 1 else 7
          max (toString size).length least
      let row (counts : List Nat) (name : String) : List Char :=
        [' '].intercalate (counts.map (inColumn width)) ++
          (if name.isEmpty then [] else ' ' :: name.toList) ++ ['\n']
      let (rows, totals, good, s) := all.foldl (fun (rows, totals, good, s) name =>
        let shown := if names.isEmpty then "" else name
        match State.readSource name s with
        | (.ok text, s) =>
          let counts := countsOf letters text
          (rows ++ row counts shown, totals.zipWith (· + ·) counts, good, s)
        | (.error failure, s) =>
          let s := s.complain (s.name ++ ": " ++ plainly name failure)
          let rows := if failure = .isADirectory then rows ++ row (letters.map fun _ => 0) name
            else rows
          (rows, totals, false, s)) ([], letters.map fun _ => 0, true, s)
      let rows := if names.length > 1 then rows ++ row totals "total" else rows
      (s.print rows).finish (if good then 0 else 1))
    s arguments

/-- Prints the lines of each source, last one first. -/
def tac (s : State) (arguments : List String) : State :=
  State.withArguments ⟨[], [], [], true⟩ 1
    (fun options s =>
      let failed (name : String) (failure : Failure) : String :=
        if failure = .isADirectory then name ++ ": read error: Is a directory"
        else "failed to open '" ++ name ++ "' for reading: " ++ failure.reason
      let (sources, good, s) := s.readSources failed options.operands
      (s.print (sources.flatMap fun source =>
        (Text.physicalLines source.text).reverse.flatten)).finish (if good then 0 else 1))
    s arguments

end PluginBuild.Shell
