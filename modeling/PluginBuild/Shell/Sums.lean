import PluginBuild.Digest.Md5
import PluginBuild.Digest.Sha
import PluginBuild.Shell.FileTools
/-!
# Sums

The utilities that print digests and checksums of files, and compare digests with those in lists.
-/

namespace PluginBuild.Shell

/-- A digest with its name in lists. -/
structure DigestKind where
  label : String
  /-- How many digits it has. -/
  length : Nat
  digest : List UInt8 → String

namespace DigestKind

/-- The digests by the names of the programs that print them, up to their common ending. -/
def all : List (String × DigestKind) :=
  [("md5", ⟨"MD5", 32, Digest.md5⟩), ("sha1", ⟨"SHA1", 40, Digest.sha1⟩),
    ("sha224", ⟨"SHA224", 56, Digest.sha224⟩), ("sha256", ⟨"SHA256", 64, Digest.sha256⟩),
    ("sha384", ⟨"SHA384", 96, Digest.sha384⟩), ("sha512", ⟨"SHA512", 128, Digest.sha512⟩)]

/-- A name in which line breaks and backslashes are escaped. -/
def escapedName (name : String) : String :=
  String.ofList (name.toList.flatMap fun
    | '\\' => ['\\', '\\']
    | '\n' => ['\\', 'n']
    | '\r' => ['\\', 'r']
    | c => [c])

/-- The name whose line breaks and backslashes are escaped in a text. -/
def readName : List Char → List Char
  | '\\' :: 'n' :: rest => '\n' :: readName rest
  | '\\' :: 'r' :: rest => '\r' :: readName rest
  | '\\' :: '\\' :: rest => '\\' :: readName rest
  | c :: rest => c :: readName rest
  | [] => []

/-- The line of a list for a digest. A label comes first if that is asked for. -/
def line (kind : DigestKind) (labelled binary : Bool) (ending : Char) (source : Source) :
    List Char :=
  let name := if ending = '\n' then escapedName source.name else source.name
  let start := if name = source.name then "" else "\\"
  let digest := kind.digest (toBytes source.text)
  (start ++ if labelled then kind.label ++ " (" ++ name ++ ") = " ++ digest
    else digest ++ (if binary then " *" else "  ") ++ name).toList ++ [ending]

/-- Whether a text is a digest. -/
def isDigest (kind : DigestKind) (digits : List Char) : Bool :=
  digits.length = kind.length && digits.all fun c => (Text.digitValue? 16 c).isSome

/-- The digest and the name in a line of a list, if it has that form. -/
def ofLine? (kind : DigestKind) (line : List Char) : Option (List Char × String) :=
  let line := dropSpace line
  let isEscaped := line.head? = some '\\'
  let line := if isEscaped then line.tail else line
  let nameOf (text : List Char) : String :=
    String.ofList (if isEscaped then readName text else text)
  let start := (kind.label ++ " (").toList
  if start.isPrefixOf line then
    let turned := (line.drop start.length).reverse
    let digits := (turned.takeWhile (!isSpace ·)).reverse
    let before := turned.drop digits.length
    if before.take 4 = " = )".toList ∧ kind.isDigest digits then
      some (digits, nameOf (before.drop 4).reverse)
    else none
  else
    let digits := line.takeWhile (!isSpace ·)
    match line.drop digits.length with
    | c :: d :: name =>
      if c ≠ ' ' ∨ !kind.isDigest digits then none
      else some (digits, nameOf (if d = ' ' ∨ d = '*' then name else d :: name))
    | _ => none

end DigestKind

/-- What has been found out about the lines of a list. -/
structure ListCheck where
  /-- The lines that tell how each file is. -/
  told : List (List Char)
  /-- How many lines have the right form. -/
  formed : Nat
  malformed : Nat
  unreadable : Nat
  different : Nat
  equal : Nat

namespace ListCheck

/-- What is known before the first line. -/
def start : ListCheck := ⟨[], 0, 0, 0, 0, 0⟩

/-- What is known after a line, with the state after that. -/
def addLine (kind : DigestKind) (options : Arguments) (list : String)
    (check : ListCheck × State) (entry : List Char × Nat) : ListCheck × State :=
  let (check, s) := check
  let tell (name result : String) : List (List Char) :=
    check.told ++ [(DigestKind.escapedName name ++ ": " ++ result).toList]
  if entry.1.head? = some '#' ∨ entry.1.isEmpty then (check, s)
  else
    match kind.ofLine? entry.1 with
    | none =>
      ({ check with malformed := check.malformed + 1 },
        if options.has 'w' then s.complain (s.name ++ ": " ++ quotedIfNeeded list ++ ": " ++
          toString (entry.2 + 1) ++ ": improperly formatted " ++ kind.label ++ " checksum line")
        else s)
    | some (digits, name) =>
      let check := { check with formed := check.formed + 1 }
      match s.readSource name with
      | (.error failure, s) =>
        if options.has 'I' ∧ failure = .notFound then (check, s)
        else
          ({ check with
              unreadable := check.unreadable + 1, told := tell name "FAILED open or read" },
            s.complain (s.name ++ ": " ++ plainly name failure))
      | (.ok text, s) =>
        let isEqual := kind.digest (toBytes text) =
          String.ofList (digits.map Char.toLower)
        let quiet := isEqual && options.has 'q'
        ({ check with
            told := if quiet then check.told else tell name (if isEqual then "OK" else "FAILED")
            equal := check.equal + if isEqual then 1 else 0
            different := check.different + if isEqual then 0 else 1 }, s)

/-- A warning about a number of things, if there are any. -/
def warn (count : Nat) (one more : String) (s : State) : State :=
  if count = 0 then s
  else
    s.complain (s.name ++ ": WARNING: " ++ toString count ++ " " ++
      if count = 1 then one else more)

/-- Compares the digests of files with those in a list. -/
def ofList (kind : DigestKind) (options : Arguments) (source : Source) (s : State) : State :=
  let list := if source.name = "-" then "standard input" else source.name
  let (check, s) := (linesOf source.text).zipIdx.foldl (addLine kind options list) (start, s)
  if check.formed = 0 then
    s.fault 1 (quotedIfNeeded list ++ ": no properly formatted checksum lines found")
  else
    let warned (s : State) : State :=
      let s := warn check.malformed "line is improperly formatted"
        "lines are improperly formatted" (s.print (joinLines check.told))
      let s := warn check.unreadable "listed file could not be read"
        "listed files could not be read" s
      let s := warn check.different "computed checksum did NOT match"
        "computed checksums did NOT match" s
      if options.has 'I' ∧ check.equal = 0 then
        s.complain (s.name ++ ": " ++ quotedIfNeeded list ++ ": no file was verified")
      else s
    let s := if options.has 'S' then s else warned s
    if check.equal ≠ 0 ∧ check.unreadable + check.different = 0 ∧
        !(options.has 'X' ∧ check.malformed ≠ 0) then s
    else s.finish 1

end ListCheck

/-- Prints the digests of files, or compares them with those in lists. -/
def digestSums (kind : DigestKind) : State → List String → State :=
  State.withArguments ⟨['b', 't', 'c', 'w', 'z', 'L', 'q', 'S', 'I', 'X'], [],
    [("binary", 'b'), ("check", 'c'), ("ignore-missing", 'I'), ("quiet", 'q'), ("status", 'S'),
      ("strict", 'X'), ("tag", 'L'), ("text", 't'), ("warn", 'w'), ("zero", 'z')], true⟩ 1
    fun options s =>
      let checks := options.has 'c'
      let names : List (Char × String) :=
        [('I', "ignore-missing"), ('S', "status"), ('w', "warn"), ('q', "quiet"), ('X', "strict")]
      match names.find? fun entry => options.has entry.1 with
      | some (_, name) =>
        if checks then
          let (sources, good, s) := s.readSources plainly options.operands
          sources.foldl (fun s source => ListCheck.ofList kind options source s)
            (s.finish (if good then 0 else 1))
        else
          s.misused 1 ("the --" ++ name ++
            " option is meaningful only when verifying checksums")
      | none =>
        if checks ∧ options.has 'L' then
          s.misused 1 "the --tag option is meaningless when verifying checksums"
        else if checks ∧ (options.has 'b' ∨ options.has 't') then
          s.misused 1
            "the --binary and --text options are meaningless when verifying checksums"
        else
          let (sources, good, s) := s.readSources plainly options.operands
          let s := s.finish (if good then 0 else 1)
          if checks then
            sources.foldl (fun s source => ListCheck.ofList kind options source s) s
          else
            s.print (sources.flatMap (kind.line (options.has 'L')
              (options.last? ['b', 't'] = some 'b') (if options.has 'z' then '\x00' else '\n')))

/-- The checksum after a byte, from the highest bit down. -/
def checksumByte (sum : UInt32) (byte : UInt8) : UInt32 :=
  (List.range 8).foldl (fun sum _ =>
    if sum &&& 0x80000000 = 0 then sum <<< 1 else (sum <<< 1) ^^^ 0x04C11DB7)
    (sum ^^^ (byte.toUInt32 <<< 24))

/-- The checksum of bytes and of the bytes of their number. -/
def checksum (bytes : List UInt8) : UInt32 :=
  let size := (Digest.littleEndian 8 bytes.length).reverse.dropWhile (· = 0)
  ~~~((bytes ++ size.reverse).foldl checksumByte 0)

/-- The sum of bytes that is turned by one bit before each. -/
def turningSum (bytes : List UInt8) : Nat :=
  bytes.foldl (fun sum byte => (sum / 2 + sum % 2 * 32768 + byte.toNat) % 65536) 0

/-- The sum of bytes with what is above sixteen bits added to the rest. -/
def plainSum (bytes : List UInt8) : Nat :=
  let folded (n : Nat) : Nat := n % 65536 + n / 65536
  folded (folded (bytes.foldl (fun sum byte => (sum + byte.toNat) % 4294967296) 0))

/-- The kinds of checksums. -/
inductive ChecksumKind
  | turning
  | plain
  | cyclic

namespace ChecksumKind

/-- A line with the checksum and the size of a file, and its name if that was given. -/
def line (kind : ChecksumKind) (named : Bool) (source : Source) : List Char :=
  let bytes := toBytes source.text
  let blocks (size : Nat) : Nat := (bytes.length + size - 1) / size
  let column (fill : Char) (n : Nat) : String := String.ofList ((toString n).toList.leftpad 5 fill)
  let text :=
    match kind with
    | turning => column '0' (turningSum bytes) ++ " " ++ column ' ' (blocks 1024)
    | plain => toString (plainSum bytes) ++ " " ++ toString (blocks 512)
    | cyclic => toString (checksum bytes) ++ " " ++ toString bytes.length
  (text ++ (if named then " " ++ source.name else "") ++ "\n").toList

/-- The kinds by their names. -/
def all : List (String × ChecksumKind) := [("bsd", turning), ("sysv", plain), ("crc", cyclic)]

end ChecksumKind

/-- Prints checksums of a kind for the operands. -/
def printChecksums (kind : ChecksumKind) (options : Arguments) (s : State) : State :=
  let (sources, good, s) := s.readSources plainly options.operands
  (s.print (sources.flatMap (kind.line !options.operands.isEmpty))).finish (if good then 0 else 1)

/-- Prints checksums with the numbers of blocks. -/
def printSums : State → List String → State :=
  State.withArguments ⟨['r', 's'], [], [("sysv", 's')], true⟩ 1
    fun options s =>
      printChecksums (if options.last? ['r', 's'] = some 's' then .plain else .turning) options s

/-- Prints checksums, or the digests of another kind. -/
def printChecks : State → List String → State :=
  State.withArguments ⟨['L', 'U', 'z'], ['a'],
    [("algorithm", 'a'), ("tag", 'L'), ("untagged", 'U'), ("zero", 'z')], true⟩ 1
    fun options s =>
      let name := (options.value? 'a').getD "crc"
      match ChecksumKind.all.lookup name, DigestKind.all.lookup name with
      | some kind, _ => printChecksums kind options s
      | none, some kind =>
        let (sources, good, s) := s.readSources plainly options.operands
        (s.print (sources.flatMap (kind.line (options.last? ['L', 'U'] ≠ some 'U') false
          (if options.has 'z' then '\x00' else '\n')))).finish (if good then 0 else 1)
      | none, none =>
        let names := ["bsd", "sysv", "crc", "md5", "sha1", "sha224", "sha256", "sha384", "sha512",
          "blake2b", "sm3"]
        let s := s.fault 1 ("invalid argument " ++ named name ++ " for '--algorithm'")
        let s := names.foldl (fun s name => s.complain ("  - " ++ named name))
          (s.complain "Valid arguments are:")
        s.complain ("Try '" ++ s.name ++ " --help' for more information.")

end PluginBuild.Shell
