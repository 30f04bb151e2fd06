import PluginBuild.Shell.FileTools
import PluginBuild.Text.ByteDigits
import PluginBuild.Text.Lines
/-!
# Inspection

The utilities that show the bytes of files, break their lines, find them and tell about them, and
those that write bytes with printable digits and read them back.
-/

namespace PluginBuild.Shell

open Files (Failure Location Node Store)

/-- How bytes are shown. -/
inductive ByteForm
  | characters
  | octal
  | hexadecimal
  | decimal
  | signed
  /-- Two bytes as one number. -/
  | octalPairs
  | hexadecimalPairs
deriving DecidableEq

namespace ByteForm

/-- Digits in a column of a width. -/
def column (width : Nat) (fill : Char) (digits : List Char) : List Char :=
  List.replicate (width - digits.length) fill ++ digits

/-- The form of a character where bytes are shown as such. -/
def character (c : Char) : List Char :=
  let named : List (Char × List Char) :=
    [('\x00', ['\\', '0']), ('\x07', ['\\', 'a']), ('\x08', ['\\', 'b']), ('\t', ['\\', 't']),
      ('\n', ['\\', 'n']), ('\x0b', ['\\', 'v']), ('\x0c', ['\\', 'f']), ('\r', ['\\', 'r'])]
  match named.lookup c with
  | some text => text
  | none => if ' ' ≤ c ∧ c ≤ '~' then [c] else column 3 '0' (Nat.toDigits 8 c.toNat)

/-- The text of a byte and the one after it. -/
def one (form : ByteForm) (c : Char) (next : Nat) : List Char :=
  let n := c.toNat
  match form with
  | characters => column 4 ' ' (character c)
  | octal => ' ' :: column 3 '0' (Nat.toDigits 8 n)
  | hexadecimal => ' ' :: column 2 '0' (Nat.toDigits 16 n)
  | decimal => column 4 ' ' (Nat.toDigits 10 n)
  | signed =>
    column 5 ' ' (if n < 128 then Nat.toDigits 10 n else '-' :: Nat.toDigits 10 (256 - n))
  | octalPairs => ' ' :: column 6 '0' (Nat.toDigits 8 (n + 256 * next))
  | hexadecimalPairs => ' ' :: column 4 '0' (Nat.toDigits 16 (n + 256 * next))

/-- The text of bytes in a line. -/
def text (form : ByteForm) : List Char → List Char
  | [] => []
  | [c] => form.one c 0
  | c :: d :: rest =>
    if form = octalPairs ∨ form = hexadecimalPairs then form.one c d.toNat ++ text form rest
    else form.one c 0 ++ text form (d :: rest)

/-- The form of a type, if it is one. -/
def ofType? (type : String) : Option ByteForm :=
  [("c", characters), ("o1", octal), ("x1", hexadecimal), ("u1", decimal), ("d1", signed),
    ("o2", octalPairs), ("x2", hexadecimalPairs), ("o", octalPairs)].lookup type

end ByteForm

/-- Texts of a length. The last one may be shorter. -/
def chunks (size : Nat) : Nat → List Char → List (List Char)
  | 0, _ | _ + 1, [] => []
  | fuel + 1, s => s.take size :: chunks size fuel (s.drop size)

/-- The lines that show bytes, in which the places of the bytes count from a number on. -/
def dumped (address : Nat → List Char) (form : ByteForm) (all : Bool) (previous : List Char)
    (starred : Bool) (place : Nat) : List (List Char) → List (List Char)
  | [] => if (address place).isEmpty then [] else [address place]
  | piece :: rest =>
    if !all ∧ piece = previous then
      (if starred then [] else [['*']]) ++
        dumped address form all previous true (place + piece.length) rest
    else
      (address place ++ form.text piece) ::
        dumped address form all piece false (place + piece.length) rest

/-- Shows bytes. -/
def od (s : State) (arguments : List String) : State :=
  State.withArguments ⟨['c', 'b', 'x', 'o', 'v'], ['A', 't', 'N', 'j', 'w'],
    [("address-radix", 'A'), ("format", 't'), ("read-bytes", 'N'), ("skip-bytes", 'j')], true⟩ 1
    (fun options s =>
      let (sources, good, s) := s.readSources plainly options.operands
      let number (letter : Char) : Option Nat := (options.value? letter).bind wholeNumber?
      let text := (sources.flatMap Source.text).drop ((number 'j').getD 0)
      let text := (number 'N').elim text text.take
      let form : ByteForm :=
        match options.last? ['c', 'b', 'x', 'o', 't'] with
        | some 'c' => .characters
        | some 'b' => .octal
        | some 'x' => .hexadecimalPairs
        | some 't' => (ByteForm.ofType? ((options.value? 't').getD "")).getD .octalPairs
        | _ => .octalPairs
      let address (n : Nat) : List Char :=
        match options.value? 'A' with
        | some "n" => []
        | some "d" => ByteForm.column 7 '0' (Nat.toDigits 10 n)
        | some "x" => ByteForm.column 6 '0' (Nat.toDigits 16 n)
        | _ => ByteForm.column 7 '0' (Nat.toDigits 8 n)
      let pieces := chunks ((number 'w').getD 16) (text.length + 1) text
      (s.print (joinLines (dumped address form (options.has 'v') [] false ((number 'j').getD 0)
        pieces))).finish (if good then 0 else 1))
    s arguments

/-- Breaks lines that are longer than a width. -/
def fold (s : State) (arguments : List String) : State :=
  State.withArguments ⟨['b', 's'], ['w'], [("width", 'w')], true⟩ 1
    (fun options s =>
      let (sources, good, s) := s.readSources plainly options.operands
      let width := max 1 (((options.value? 'w').bind wholeNumber?).getD 80)
      let folded (line : List Char) : List Char :=
        let broken := line.getLast? = some '\n'
        let body := if broken then line.dropLast else line
        ['\n'].intercalate (if body.isEmpty then [[]] else chunks width (body.length + 1) body) ++
          (if broken then ['\n'] else [])
      (s.print ((sources.flatMap fun source => Text.physicalLines source.text).flatMap
        folded)).finish (if good then 0 else 1))
    s arguments

/-- A test of what is found. -/
inductive FindTest
  | name (pattern : Pattern) (whole : Bool)
  | kind (letter : Char)
  | empty
  | isTrue
  | not (test : FindTest)
  | both (first second : FindTest)
  | either (first second : FindTest)

/-- What is found below a path. -/
structure Finding where
  path : String
  location : Location
  node : Node
  depth : Nat

namespace FindTest

/-- Whether something passes a test. -/
def accepts (files : Store) (finding : Finding) : FindTest → Bool
  | name pattern whole =>
    pattern.fits (if whole then finding.path else lastName finding.path).toList
  | kind letter =>
    match finding.node with
    | .directory => letter = 'd'
    | .file .. => letter = 'f'
  | empty =>
    match finding.node with
    | .directory => (namesIn files finding.location).isEmpty
    | .file content _ => content.toBytes.isEmpty
  | isTrue => true
  | not test => !test.accepts files finding
  | both first second => first.accepts files finding && second.accepts files finding
  | either first second => first.accepts files finding || second.accepts files finding

/-- The pattern of an argument. -/
def patternOf (text : String) (ignoresCase : Bool) : Pattern :=
  let pattern := Pattern.ofField (text.toList.map (·, false))
  if !ignoresCase then pattern
  else
    pattern.map fun
      | .set set => .set set.withoutCase
      | .star => .star

end FindTest

/-- What is done with what is found, and where it is looked for. -/
structure FindPlan where
  test : FindTest
  least : Nat
  most : Option Nat
  /-- Whether what is found is removed. -/
  deletes : Bool
  /-- What follows each path that is printed. -/
  ending : Char
  /-- The words of a command that is run, for each path or for all paths together. -/
  command : Option (List String × Bool)

/-- The plan that arguments after the paths make. `all` holds what has to be true so far. -/
def FindPlan.read (plan : FindPlan) (negated : Bool) :
    List String → Except String FindPlan
  | [] => .ok plan
  | argument :: rest =>
    let tested (test : FindTest) : FindPlan :=
      { plan with test := .both plan.test (if negated then .not test else test) }
    match argument, rest with
    | "!", rest | "-not", rest => FindPlan.read plan (!negated) rest
    | "-a", rest | "-and", rest | "-print", rest => FindPlan.read plan false rest
    | "-o", rest | "-or", rest => do
      let other ← FindPlan.read { plan with test := .isTrue } false rest
      return { other with test := .either plan.test other.test }
    | "-name", text :: rest =>
      (tested (.name (FindTest.patternOf text false) false)).read false rest
    | "-iname", text :: rest =>
      (tested (.name (FindTest.patternOf text true) false)).read false rest
    | "-path", text :: rest =>
      (tested (.name (FindTest.patternOf text false) true)).read false rest
    | "-type", text :: rest => (tested (.kind (text.toList.headD 'f'))).read false rest
    | "-empty", rest => (tested .empty).read false rest
    | "-true", rest => (tested .isTrue).read false rest
    | "-maxdepth", text :: rest =>
      FindPlan.read { plan with most := wholeNumber? text } negated rest
    | "-mindepth", text :: rest =>
      FindPlan.read { plan with least := (wholeNumber? text).getD 0 } negated rest
    | "-print0", rest => FindPlan.read { plan with ending := '\x00' } negated rest
    | "-delete", rest => FindPlan.read { plan with deletes := true } negated rest
    | name, [] =>
      if name ∈ ["-name", "-iname", "-path", "-type", "-maxdepth", "-mindepth"] then
        .error ("missing argument to `" ++ name ++ "'")
      else .error ("unknown predicate `" ++ name ++ "'")
    | name, _ => .error ("unknown predicate `" ++ name ++ "'")

/-- What there is at a location and below it, a directory before what is in it. `fuel` bounds how
deep that goes. -/
def findingsBelow (files : Store) : Nat → Finding → List Finding
  | 0, _ => []
  | fuel + 1, finding =>
    finding ::
      if finding.node ≠ .directory then []
      else
        (namesIn files finding.location).flatMap fun name =>
          let location := finding.location ++ [outOfBytes name]
          match files.node? location with
          | some node =>
            findingsBelow files fuel ⟨inside finding.path name, location, node, finding.depth + 1⟩
          | none => []

/-- The words of a command among arguments, whether it is run for all paths together, and the other
arguments. -/
def FindPlan.cutCommand (arguments : List String) :
    Except String (Option (List String × Bool) × List String) :=
  let before := arguments.takeWhile (· ≠ "-exec")
  match arguments.drop before.length with
  | [] => .ok (none, before)
  | _ :: rest =>
    let words := rest.takeWhile fun word => word ≠ ";" && word ≠ "+"
    match rest.drop words.length with
    | [] => .error "missing argument to `-exec'"
    | sign :: after =>
      .ok (some (if sign = "+" then words.filter (· ≠ "\x7b\x7d") else words, sign = "+"),
        before ++ after)

/-- The paths that arguments start with, and the plan that the others make. -/
def FindPlan.ofArguments (arguments : List String) : Except String (List String × FindPlan) := do
  let isPath (argument : String) : Bool := !argument.startsWith "-" && argument ≠ "!"
  let paths := arguments.takeWhile isPath
  let (command, rest) ← cutCommand (arguments.drop paths.length)
  let plan ← FindPlan.read ⟨.isTrue, 0, none, false, '\n', command⟩ false rest
  return (if paths.isEmpty then ["."] else paths, plan)

/-- What is found by a plan below a path. -/
def FindPlan.found (plan : FindPlan) (files : Store) (path : String) :
    Except Failure (List Finding) := do
  let location ← files.locate (pathOf path)
  let node ← files.find (pathOf path)
  return (findingsBelow files 100 ⟨path, location, node, 0⟩).filter fun finding =>
    plan.least ≤ finding.depth && plan.most.all (finding.depth ≤ ·) &&
      plan.test.accepts files finding

/-- Finds what is below paths and prints or removes it, or runs a command for it. -/
def findBelow (run : List String → State → State) (s : State) (arguments : List String) : State :=
  match FindPlan.ofArguments arguments with
  | .error message => s.fault 1 message
  | .ok (paths, plan) =>
    let (all, s) := paths.foldl (fun (all, s) path =>
      match plan.found s.files path with
      | .error failure => (all, s.fault 1 (named path ++ ": " ++ failure.reason))
      | .ok found => (all ++ found, s)) ([], s.finish 0)
    let shown := all.map (·.path)
    match plan.command with
    | some (words, true) =>
      if shown.isEmpty then s
      else
        let after := run (words ++ shown) s
        if after.status = 0 then after.finish s.status else after.finish 1
    | some (words, false) =>
      shown.foldl (fun s path =>
        (run (words.map (·.replace "\x7b\x7d" path)) s).finish s.status) s
    | none =>
      if plan.deletes then
        all.foldl (fun s finding =>
          { s with files := s.files.removeTree finding.location }) s
      else s.print (shown.flatMap fun path => path.toList ++ [plan.ending])

/-- The text about a file that a format asks for. -/
def statText (name : String) (node : Node) : List Char → List Char
  | '%' :: c :: rest =>
    let isDirectory := node = .directory
    let mode := match node with
      | .directory => "755"
      | .file _ true => "755"
      | .file _ false => "644"
    let kind := match node with
      | .directory => "directory"
      | .file content _ =>
        if content.toBytes.isEmpty then "regular empty file" else "regular file"
    let text :=
      match c with
      | 'n' => name
      | 's' => toString (sizeOfNode node)
      | 'a' => mode
      | 'A' => modeText node
      | 'F' => kind
      | 'U' | 'G' => "root"
      | 'u' | 'g' => "0"
      | 'h' => if isDirectory then "2" else "1"
      | '%' => "%"
      | c => String.ofList [c]
    text.toList ++ statText name node rest
  | c :: rest => c :: statText name node rest
  | [] => []

/-- Prints what is known about files. -/
def stat : State → List String → State :=
  withOperands ⟨['L', 'f', 't'], ['c', '1'], [("format", 'c'), ("printf", '1')], true⟩
    "missing operand" fun options s =>
      options.operands.foldl (fun s name =>
        match s.files.find (pathOf name) with
        | .ok node => s.print (statText name node ((options.value? 'c').getD "%n").toList ++ ['\n'])
        | .error failure =>
          s.fault 1 ("cannot statx " ++ named name ++ ": " ++ failure.reason)) (s.finish 0)

/-- Prints the full paths of files, of which the last name may be missing. -/
def realpath : State → List String → State :=
  withOperands ⟨['e', 'm', 's', 'f', 'n', 'q', 'z'], [], [], true⟩ "missing operand"
    fun options s =>
      options.operands.foldl (fun s name =>
        match s.files.locateEntry (pathOf name) with
        | .ok location =>
          if options.has 'e' ∧ !s.files.contains (pathOf name) then
            s.fault 1 (name ++ ": No such file or directory")
          else s.print ((pathText location).toList ++ ['\n'])
        | .error failure => s.fault 1 (name ++ ": " ++ failure.reason)) (s.finish 0)

/-- Writes the bytes of a file with digits, or reads them back. -/
def encodeAs (style : Text.ByteDigits) : State → List String → State :=
  State.withArguments ⟨['d', 'i'], ['w'],
    [("decode", 'd'), ("ignore-garbage", 'i'), ("wrap", 'w')], true⟩ 1
    fun options s =>
      let width := (options.value? 'w').elim (some 76) wholeNumber?
      match options.operands, width with
      | _, none =>
        s.fault 1 ("invalid wrap size: " ++ named ((options.value? 'w').getD ""))
      | _ :: extra :: _, _ => s.misused 1 ("extra operand " ++ named extra)
      | operands, some width =>
        let (sources, good, s) := s.readSources plainly operands
        let text := sources.flatMap Source.text
        if !good then s.finish 1
        else if options.has 'd' then
          let isKept (c : Char) : Bool :=
            if options.has 'i' then c = '=' || c ∈ style.digits else c ≠ '\n'
          let (bytes, good) := style.decode (text.filter isKept)
          let s := s.print (ofBytes bytes)
          if good then s.finish 0 else s.fault 1 "invalid input"
        else
          let digits := style.encode (toBytes text)
          (s.print (if width = 0 then digits
            else joinLines (chunks width digits.length digits))).finish 0

end PluginBuild.Shell
