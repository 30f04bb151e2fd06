import PluginBuild.Shell.Arithmetic
import PluginBuild.Shell.Reals
import PluginBuild.Shell.State
/-!
# Printing utilities

The utilities that print their arguments, as they are or by a format.
-/

namespace PluginBuild.Shell

/-- The characters that letters stand for after a backslash. -/
def escapes : List (Char × Char) :=
  [('a', '\x07'), ('b', '\x08'), ('e', '\x1b'), ('f', '\x0c'), ('n', '\n'), ('r', '\r'),
    ('t', '\t'), ('v', '\x0b'), ('\\', '\\')]

/-- Whether a character is an octal digit. -/
def isOctal (c : Char) : Bool := '0' ≤ c && c ≤ '7'

/-- Whether a character is a hexadecimal digit. -/
def isHexadecimal (c : Char) : Bool := (Text.digits? 16 [c]).isSome

/-- The character of a byte that digits stand for. -/
def byteOf (radix : Nat) (digits : List Char) : Char :=
  Char.ofNat ((Text.digits? radix digits).getD 0 % 256)

/-- The character that the text after a backslash stands for, and what follows it. -/
def escape? (s : List Char) : Option (Char × List Char) :=
  let digits := (s.take 3).takeWhile isOctal
  if digits.isEmpty then
    match s with
    | [] => none
    | c :: rest => (escapes.lookup c).map (·, rest)
  else some (byteOf 8 digits, s.drop digits.length)

/-- The text that a text with escapes stands for, and whether it ends all printing. With
`hexadecimal` there are escapes with hexadecimal digits as well. -/
def escaped (hexadecimal : Bool) : Nat → List Char → List Char × Bool
  | 0, _ | _ + 1, [] => ([], false)
  | fuel + 1, c :: rest =>
    let found : Option (Char × List Char) :=
      if c ≠ '\\' then none
      else
        match rest with
        | '0' :: more =>
          if more.head?.any isOctal then escape? more else some ('\x00', more)
        | d :: more =>
          let digits := (more.take 2).takeWhile isHexadecimal
          if hexadecimal ∧ d = 'x' ∧ !digits.isEmpty then
            some (byteOf 16 digits, more.drop digits.length)
          else escape? rest
        | [] => none
    if c = '\\' ∧ rest.head? = some 'c' then ([], true)
    else
      let (c, rest) := found.getD (c, rest)
      let (text, ends) := escaped hexadecimal fuel rest
      (c :: text, ends)

/-- Prints arguments with blanks between. Backslashes have a meaning where there is a style of
escapes. -/
def printArguments (hexadecimal : Option Bool) (breaks : Bool) (arguments : List String)
    (s : State) : State :=
  let text := (" ".intercalate arguments).toList
  let (text, ends) :=
    match hexadecimal with
    | some hexadecimal => escaped hexadecimal (text.length + 1) text
    | none => (text, false)
  (s.print (text ++ (if breaks && !ends then ['\n'] else []))).finish 0

/-- Prints arguments as the shell does. -/
def echo (s : State) (arguments : List String) : State :=
  match arguments with
  | "-n" :: rest => printArguments (some false) false rest s
  | _ => printArguments (some false) true arguments s

/-- The letters of the options of arguments that are printed, and what is printed. -/
def cutEchoOptions (letters : List Char) : List String → List Char × List String
  | [] => (letters, [])
  | argument :: rest =>
    match argument.toList with
    | '-' :: c :: more =>
      if (c :: more).all fun c => c ∈ ['n', 'e', 'E'] then
        cutEchoOptions (letters ++ c :: more) rest
      else (letters, argument :: rest)
    | _ => (letters, argument :: rest)

/-- Prints arguments as the program does. -/
def echoProgram (s : State) (arguments : List String) : State :=
  let (letters, rest) := cutEchoOptions [] arguments
  let last := (letters.filter (· ≠ 'n')).getLast?
  printArguments (if last = some 'e' then some true else none) ('n' ∉ letters) rest s

/-- A width or precision. -/
inductive Measure
  | fixed (n : Nat)
  /-- The next argument says it. -/
  | given

/-- What is wrong with a format. -/
inductive FormatFault
  | noConversion
  | unknown (directive : String)

/-- What is wrong with an argument that has to be a number. -/
inductive NumberFault
  | noNumber
  /-- Only the start is a number. -/
  | partly
  | outOfRange

namespace NumberFault

/-- How the shell words what is wrong with an argument. -/
def message (argument : String) : NumberFault → String
  | noNumber => argument ++ ": expected numeric value"
  | partly => argument ++ ": not completely converted"
  | outOfRange => argument ++ ": Numerical result out of range"

/-- How the program words what is wrong with an argument. -/
def programMessage (argument : String) : NumberFault → String
  | noNumber => "'" ++ argument ++ "': expected a numeric value"
  | partly => "'" ++ argument ++ "': value not completely converted"
  | outOfRange => "'" ++ argument ++ "': Numerical result out of range"

end NumberFault

/-- A piece of a format. -/
inductive FormatPiece
  | char (c : Char)
  /-- The place of an argument. -/
  | value (flags : List Char) (width precision : Option Measure) (conversion : Char)
  | fault (fault : FormatFault)

/-- The measure at the start of a text, and what follows it. -/
def measureAt (s : List Char) : Measure × List Char :=
  match s with
  | '*' :: rest => (.given, rest)
  | _ => (.fixed ((Text.digits? 10 (s.takeWhile Char.isDigit)).getD 0), s.dropWhile Char.isDigit)

/-- The conversions of formats. -/
def conversions : List Char :=
  ['b', 'c', 's', 'd', 'i', 'o', 'u', 'x', 'X', 'e', 'E', 'f', 'F', 'g', 'G']

/-- The piece after a percent sign, and what follows it. -/
def pieceAt (s : List Char) : FormatPiece × List Char :=
  let isFlag (c : Char) : Bool := c ∈ ['#', '-', '+', ' ', '0']
  let flags := s.takeWhile isFlag
  let (width, rest) := measureAt (s.drop flags.length)
  let (precision, rest) : Option Measure × List Char :=
    match rest with
    | '.' :: rest => (some (measureAt rest).1, (measureAt rest).2)
    | _ => (none, rest)
  match rest with
  | [] => (.fault .noConversion, [])
  | c :: rest =>
    if c ∈ conversions then (.value flags (some width) precision c, rest)
    else (.fault (.unknown ("%" ++ String.ofList (s.take (s.length - rest.length)))), rest)

/-- The pieces of a format. -/
def formatPieces : Nat → List Char → List FormatPiece
  | 0, _ | _ + 1, [] => []
  | fuel + 1, c :: rest =>
    if c = '%' then
      match rest with
      | '%' :: rest => .char '%' :: formatPieces fuel rest
      | _ => (pieceAt rest).1 :: formatPieces fuel (pieceAt rest).2
    else
      match if c = '\\' then escape? rest else none with
      | some (c, rest) => .char c :: formatPieces fuel rest
      | none => .char c :: formatPieces fuel rest

/-- What a format has printed so far. -/
structure Printout where
  /-- The characters, last one first. -/
  text : List Char
  arguments : List String
  /-- What has been found wrong with arguments. -/
  complaints : List (String × NumberFault)
  /-- What is wrong with the format. -/
  fault : Option FormatFault
  /-- Whether an argument has ended all printing. -/
  isOver : Bool

namespace Printout

/-- The next argument and the printout without it. -/
def next (p : Printout) : Option String × Printout :=
  (p.arguments.head?, { p with arguments := p.arguments.tail })

/-- The printout with a complaint about an argument. -/
def complain (argument : String) (fault : NumberFault) (p : Printout) : Printout :=
  { p with complaints := p.complaints ++ [(argument, fault)] }

/-- The printout after a number that is followed by something. -/
def check (argument : String) (isNumber : Bool) (rest : List Char) (p : Printout) : Printout :=
  if !isNumber ∧ argument ≠ "" then p.complain argument .noNumber
  else if rest.isEmpty then p
  else p.complain argument .partly

/-- The character of an argument after a quote, as a number. -/
def quoted? (argument : String) : Option Nat :=
  match argument.toList with
  | '\'' :: rest | '"' :: rest => some ((rest.head?.map Char.toNat).getD 0)
  | _ => none

/-- The number that the next argument is. -/
def integer (isSigned : Bool) (p : Printout) : Int × Printout :=
  let (argument, p) := p.next
  let argument := argument.getD ""
  match quoted? argument with
  | some n => (n, p)
  | none =>
    let (n, rest) := (integerAt? argument.toList).getD (0, argument.toList)
    let p := p.check argument (integerAt? argument.toList).isSome rest
    let top : Int := if isSigned then Text.maxInt64 else 1 <<< 64 - 1
    let bottom : Int := if isSigned then Text.minInt64 else 1 - (1 <<< 64)
    let inRange := if n < bottom then (if isSigned then bottom else top) else min n top
    if inRange = n ∨ !rest.isEmpty then (inRange, p)
    else (inRange, p.complain argument .outOfRange)

/-- The value of a measure. -/
def measure (m : Option Measure) (p : Printout) : Int × Printout :=
  match m with
  | none => (0, p)
  | some (.fixed n) => (n, p)
  | some .given => p.integer true

/-- The text of a real number by a conversion, without its sign. -/
def realText (conversion : Char) (flags : List Char) (precision : Option Nat) (q : Fraction) :
    List Char :=
  let places := precision.getD 6
  let isLarge := conversion.isUpper
  if conversion = 'f' ∨ conversion = 'F' then q.fixed places
  else if conversion = 'e' ∨ conversion = 'E' then q.scientific conversion places
  else q.general (if isLarge then 'E' else 'e') ('#' ∈ flags) places

/-- The real number that the next argument is: its sign, and its text by a conversion. -/
def real (conversion : Char) (flags : List Char) (precision : Option Nat) (p : Printout) :
    Bool × List Char × Printout :=
  let (argument, p) := p.next
  let argument := argument.getD ""
  let text := dropSpace argument.toList
  let isNegative := text.head? = some '-'
  let body := if isNegative ∨ text.head? = some '+' then text.tail else text
  let word := String.ofList (body.map Char.toLower)
  match quoted? argument with
  | some n => (false, realText conversion flags precision ⟨n, 1⟩, p)
  | none =>
    if word = "inf" ∨ word = "infinity" ∨ word = "nan" then
      let text := word.toList.take 3
      (isNegative, if conversion.isUpper then text.map Char.toUpper else text, p)
    else
      let found : Option (Fraction × List Char) :=
        match numberAt? body with
        | some (n, rest) =>
          if word.startsWith "0x" then some (⟨n, 1⟩, rest) else decimalAt? body
        | none => decimalAt? body
      let (q, rest) := found.getD (⟨0, 1⟩, [])
      (isNegative && found.isSome, realText conversion flags precision q.nearest,
        p.check argument found.isSome rest)

/-- A text filled to a width, after a sign. -/
def filled (flags : List Char) (width : Int) (zeros : Bool) (sign text : List Char) : List Char :=
  let fill := width.natAbs - sign.length - text.length
  if '-' ∈ flags ∨ width < 0 then sign ++ text ++ List.replicate fill ' '
  else if zeros ∧ '0' ∈ flags then sign ++ List.replicate fill '0' ++ text
  else List.replicate fill ' ' ++ sign ++ text

/-- The digits of a number by a conversion, at least as many as a precision says. -/
def digitsText (conversion : Char) (precision : Option Nat) (n : Nat) : List Char :=
  let radix := if conversion = 'o' then 8 else if conversion.toLower = 'x' then 16 else 10
  let digits := if n = 0 ∧ precision = some 0 then [] else Nat.toDigits radix n
  let digits := if conversion = 'X' then digits.map Char.toUpper else digits
  List.replicate (precision.getD 1 - digits.length) '0' ++ digits

/-- The sign before a number. -/
def signText (flags : List Char) (isNegative : Bool) : List Char :=
  if isNegative then ['-']
  else if '+' ∈ flags then ['+']
  else if ' ' ∈ flags then [' ']
  else []

/-- The printout after the place of an argument. -/
def convert (flags : List Char) (width : Int) (precision : Option Nat) (conversion : Char)
    (p : Printout) : Printout :=
  let put (zeros : Bool) (sign text : List Char) (p : Printout) : Printout :=
    { p with text := (filled flags width zeros sign text).reverse ++ p.text }
  let cut (s : List Char) : List Char := precision.elim s s.take
  if conversion = 's' then
    let (argument, p) := p.next
    put false [] (cut (argument.getD "").toList) p
  else if conversion = 'b' then
    let (argument, p) := p.next
    let text := (argument.getD "").toList
    let (text, ends) := escaped false (text.length + 1) text
    { put false [] (cut text) p with isOver := ends }
  else if conversion = 'c' then
    let (argument, p) := p.next
    put false [] [((argument.getD "").toList.head?).getD '\x00'] p
  else if conversion = 'd' ∨ conversion = 'i' then
    let (n, p) := p.integer true
    put precision.isNone (signText flags (n < 0)) (digitsText 'd' precision n.natAbs) p
  else if conversion ∈ ['o', 'u', 'x', 'X'] then
    let (n, p) := p.integer false
    let n := (n % (1 <<< 64 : Nat)).toNat
    let digits := digitsText conversion precision n
    let sign : List Char :=
      if '#' ∈ flags ∧ conversion.toLower = 'x' ∧ n ≠ 0 then ['0', conversion] else []
    let digits :=
      if '#' ∈ flags ∧ conversion = 'o' ∧ digits.head? ≠ some '0' then '0' :: digits else digits
    put precision.isNone sign digits p
  else
    let (isNegative, text, p) := p.real conversion flags precision
    put true (signText flags isNegative) text p

/-- The printout after the pieces of a format. -/
def format : List FormatPiece → Printout → Printout
  | [], p => p
  | piece :: rest, p =>
    if p.isOver ∨ p.fault.isSome then p
    else
      match piece with
      | .char c => format rest { p with text := c :: p.text }
      | .fault fault => { p with fault := some fault }
      | .value flags width precision conversion =>
        let (width, p) := p.measure width
        let (places, p) := p.measure precision
        let precision := if precision.isSome ∧ 0 ≤ places then some places.toNat else none
        format rest (p.convert flags width precision conversion)

/-- The printout of a format that is used as often as there are arguments for it. -/
def formatAll (pieces : List FormatPiece) : Nat → Printout → Printout
  | 0, p => p
  | fuel + 1, p =>
    let after := p.format pieces
    if after.isOver ∨ after.fault.isSome ∨ after.arguments.isEmpty ∨
        after.arguments.length = p.arguments.length then after
    else formatAll pieces fuel after

end Printout

/-- What a format prints for arguments. -/
def printout (format : String) (arguments : List String) : Printout :=
  Printout.formatAll (formatPieces (format.length + 1) format.toList) (arguments.length + 1)
    ⟨[], arguments, [], none, false⟩

/-- Prints arguments by a format as the shell does. -/
def printf (s : State) (arguments : List String) : State :=
  let arguments := if arguments.head? = some "--" then arguments.tail else arguments
  match arguments with
  | [] => s.raise "usage: printf format [arg ...]"
  | format :: rest =>
    match format.toList with
    | '-' :: c :: _ => s.raise ("Illegal option -" ++ String.ofList [c])
    | _ =>
      let p := printout format rest
      let s := p.complaints.foldl (fun s (argument, fault) =>
        s.complain (s.located (fault.message argument))) s
      let s := s.print p.text.reverse
      match p.fault with
      | some .noConversion => s.raise "missing format character"
      | some (.unknown directive) => s.raise (directive ++ ": invalid directive")
      | none => s.finish (if p.complaints.isEmpty then 0 else 1)

/-- Prints arguments by a format as the program does. -/
def printfProgram (s : State) (arguments : List String) : State :=
  let arguments := if arguments.head? = some "--" then arguments.tail else arguments
  match arguments with
  | [] => s.misused 1 "missing operand"
  | format :: rest =>
    let p := printout format rest
    let s := p.complaints.foldl (fun s (argument, fault) =>
      s.fault 1 (fault.programMessage argument)) s
    let s := s.print p.text.reverse
    match p.fault with
    | some .noConversion => s.fault 1 "%: invalid conversion specification"
    | some (.unknown directive) => s.fault 1 (directive ++ ": invalid conversion specification")
    | none =>
      match p.arguments with
      | argument :: _ =>
        if p.isOver then s.finish 0
        else (s.complain (s.name ++ ": warning: ignoring excess arguments, starting with '" ++
          argument ++ "'")).finish 0
      | [] => s.finish (if p.complaints.isEmpty then 0 else 1)

end PluginBuild.Shell
