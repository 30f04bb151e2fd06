import PluginBuild.Shell.FileTools
import PluginBuild.Shell.Sources
/-!
# Copying blocks

The utility that copies a number of blocks of one file to a place in another one.
-/

namespace PluginBuild.Shell

open Files (Content Failure Location Node)

/-- What letters after a number multiply it with. -/
def blockUnit? (letters : List Char) : Option Nat :=
  match String.ofList letters with
  | "" | "c" | "B" => some 1
  | "w" => some 2
  | "b" => some 512
  | "kB" => some 1000
  | "k" | "K" | "KiB" => some 1024
  | "MB" => some 1000000
  | "M" | "xM" | "MiB" => some 1048576
  | "GB" => some 1000000000
  | "G" | "GiB" => some 1073741824
  | _ => none

/-- The number that factors with units are. -/
def blockSize? (text : String) : Option Nat :=
  (splitAt 'x' text.toList).foldl (fun product factor => do
    let digits := factor.takeWhile Char.isDigit
    return (← product) * (← Text.digits? 10 digits) * (← blockUnit? (factor.drop digits.length)))
    (some 1)

/-- What is to be copied. -/
structure BlockCopy where
  source : Option String
  target : Option String
  /-- The size of the blocks that are read. -/
  readSize : Nat
  /-- The size of the blocks that are written. -/
  writeSize : Nat
  /-- The number of blocks, or of bytes, that are read at most. -/
  count : Option (Nat × Bool)
  /-- The number of blocks, or of bytes, that are passed over. -/
  skip : Nat × Bool
  /-- The number of blocks, or of bytes, that are kept in the file that is written. -/
  seek : Nat × Bool
  conversions : List String
  sourceFlags : List String
  targetFlags : List String
  status : String

namespace BlockCopy

/-- The copy of all of the input to the output. -/
def usual : BlockCopy := ⟨none, none, 512, 512, none, (0, false), (0, false), [], [], [], ""⟩

/-- The conversions. -/
def conversionNames : List String :=
  ["ascii", "ebcdic", "ibm", "block", "unblock", "lcase", "ucase", "sparse", "swab", "sync", "excl",
    "nocreat", "notrunc", "noerror", "fdatasync", "fsync"]

/-- The copy with an operand more, or the message about it and whether that is about the use. -/
def withOperand (copy : BlockCopy) (operand : String) : Except (String × Bool) BlockCopy := do
  let name := String.ofList (operand.toList.takeWhile (· ≠ '='))
  let value := String.ofList (operand.toList.drop (name.length + 1))
  if !('=' ∈ operand.toList) then throw ("unrecognized operand " ++ named operand, true)
  let number (least : Nat) : Except (String × Bool) Nat :=
    match blockSize? value with
    | some n => if least ≤ n then .ok n else .error ("invalid number: " ++ named value, false)
    | none => .error ("invalid number: " ++ named value, false)
  let inBytes := value.endsWith "B" && (value.toList.dropLast.getLast?.any Char.isDigit)
  let words := (splitAt ',' value.toList).map String.ofList
  match name with
  | "if" => return { copy with source := some value }
  | "of" => return { copy with target := some value }
  | "bs" =>
    let n ← number 1
    return { copy with readSize := n, writeSize := n }
  | "ibs" => return { copy with readSize := ← number 1 }
  | "obs" => return { copy with writeSize := ← number 1 }
  | "cbs" =>
    let _ ← number 1
    return copy
  | "count" => return { copy with count := some (← number 0, inBytes) }
  | "skip" | "iseek" => return { copy with skip := (← number 0, inBytes) }
  | "seek" | "oseek" => return { copy with seek := (← number 0, inBytes) }
  | "conv" =>
    match words.find? (· ∉ conversionNames) with
    | some word => throw ("invalid conversion: " ++ named word, true)
    | none => return { copy with conversions := copy.conversions ++ words }
  | "iflag" => return { copy with sourceFlags := copy.sourceFlags ++ words }
  | "oflag" => return { copy with targetFlags := copy.targetFlags ++ words }
  | "status" =>
    if value ∈ ["none", "noxfer", "progress"] then return { copy with status := value }
    else throw ("invalid status level: " ++ named value, true)
  | _ => throw ("unrecognized operand " ++ named operand, true)

/-- Bytes with each two of them swapped. -/
def swapped : List UInt8 → List UInt8
  | a :: b :: rest => b :: a :: swapped rest
  | rest => rest

/-- A byte in the case that conversions ask for. -/
def inCase (conversions : List String) (byte : UInt8) : UInt8 :=
  let c := Char.ofNat byte.toNat
  let c :=
    if "ucase" ∈ conversions then c.toUpper
    else if "lcase" ∈ conversions then c.toLower
    else c
  UInt8.ofNat c.toNat

/-- What is written for bytes that are read. -/
def converted (copy : BlockCopy) (bytes : List UInt8) : List UInt8 :=
  let gap := (copy.readSize - bytes.length % copy.readSize) % copy.readSize
  let bytes := if "sync" ∈ copy.conversions then bytes ++ List.replicate gap 0 else bytes
  let bytes := if "swab" ∈ copy.conversions then swapped bytes else bytes
  bytes.map (inCase copy.conversions)

/-- The numbers of whole blocks and of parts of blocks, as they are told. -/
def blocksText (size : Nat) (bytes : Nat) : String :=
  toString (bytes / size) ++ "+" ++ (if bytes % size = 0 then "0" else "1")

/-- What is told about the bytes that have been copied. -/
def bytesText (count : Nat) : String :=
  let unit := if count = 1 then "1 byte" else toString count ++ " bytes"
  let scaled (radix : Nat) (names : List String) : String :=
    let power := (List.range names.length).foldl (fun power i =>
      if Nat.pow radix (i + 1) ≤ count then i + 1 else power) 0
    let tenths := (10 * count + Nat.pow radix power - 1) / Nat.pow radix power
    let shown := if tenths < 100 then toString (tenths / 10) ++ "." ++ toString (tenths % 10)
      else toString ((count + Nat.pow radix power - 1) / Nat.pow radix power)
    shown ++ " " ++ (names[power - 1]?).getD ""
  let decimal := scaled 1000 ["kB", "MB", "GB", "TB"]
  let binary := scaled 1024 ["KiB", "MiB", "GiB", "TiB"]
  if count < 1000 then unit ++ " copied, "
  else if count < 1024 then unit ++ " (" ++ decimal ++ ") copied, "
  else unit ++ " (" ++ decimal ++ ", " ++ binary ++ ") copied, "

/-- A number of blocks in bytes. -/
def sizeOf (size : Nat) (flags : List String) (flag : String) (count : Nat × Bool) : Nat :=
  if count.2 ∨ flag ∈ flags then count.1 else count.1 * size

/-- The state after bytes have been written at a place in the file of a name. -/
def put (copy : BlockCopy) (name : String) (bytes : List UInt8) (s : State) :
    Except Failure State := do
  let start := sizeOf copy.writeSize copy.targetFlags "seek_bytes" copy.seek
  if name = "/dev/null" then return s
  else
    let location ← s.files.locateFile (pathOf name)
    let (before, executable) ←
      match s.files.node? location with
      | some .directory => throw .isADirectory
      | some (.file content executable) => do
        if "excl" ∈ copy.conversions then throw .alreadyExists
        pure (content.toBytes, executable)
      | none => do
        if "nocreat" ∈ copy.conversions then throw .notFound
        pure ([], false)
    let keepsEnd := "notrunc" ∈ copy.conversions
    let start := if "append" ∈ copy.targetFlags ∧ keepsEnd then before.length else start
    let head := before.take start
    let gap := List.replicate (start - head.length) 0
    let tail := if keepsEnd then before.drop (start + bytes.length) else []
    let content : Content := .bytes (head ++ gap ++ bytes ++ tail)
    return { s with files := s.files.put location (.file content executable) }

/-- The bytes that are read, with the state after that, or the message about what cannot be
read. -/
def take (copy : BlockCopy) (s : State) : Except String (List UInt8 × Bool × State) := do
  let skip := sizeOf copy.readSize copy.sourceFlags "skip_bytes" copy.skip
  let count := copy.count.map (sizeOf copy.readSize copy.sourceFlags "count_bytes")
  let cut (bytes : List UInt8) : List UInt8 :=
    let rest := bytes.drop skip
    count.elim rest rest.take
  match copy.source with
  | none =>
    let bytes := s.left 0
    let taken := cut bytes
    return (taken, true, s.leave 0 (bytes.drop (min skip bytes.length + taken.length)))
  | some name =>
    match s.files.find (pathOf name) with
    | .ok (.file content _) =>
      let bytes := content.toBytes
      return (cut bytes, skip ≤ bytes.length, s)
    | .ok .directory => throw ("error reading " ++ named name ++ ": Is a directory")
    | .error failure => throw ("failed to open " ++ named name ++ ": " ++ failure.reason)

/-- Copies blocks. -/
def run (copy : BlockCopy) (s : State) : State :=
  match copy.take s with
  | .error message => s.fault 1 message
  | .ok (bytes, canSkip, s) =>
    let out := copy.converted bytes
    let done : Except Failure State :=
      match copy.target with
      | none => .ok (s.write 1 out)
      | some name => copy.put name out s
    match done with
    | .error failure =>
      s.fault 1 ("failed to open " ++ named (copy.target.getD "") ++ ": " ++ failure.reason)
    | .ok s =>
      let s := s.finish 0
      let s :=
        if canSkip then s
        else
          s.complain (s.name ++ ": " ++ copy.source.getD "" ++ ": cannot skip to specified offset")
      if copy.status = "none" then s
      else
        let s := s.complain (blocksText copy.readSize bytes.length ++ " records in")
        let s := s.complain (blocksText copy.writeSize out.length ++ " records out")
        if copy.status = "noxfer" then s
        else s.complain (bytesText out.length ++ "0.0001 s, 1.0 MB/s")

end BlockCopy

/-- Copies blocks of a file to another one. -/
def dd (s : State) (arguments : List String) : State :=
  match arguments.find? fun argument => argument.startsWith "--" && argument ≠ "--" with
  | some argument => s.misused 1 ("unrecognized option " ++ named argument)
  | none =>
    let operands := arguments.filter (· ≠ "--")
    match operands.foldlM BlockCopy.withOperand BlockCopy.usual with
    | .ok copy => copy.run s
    | .error (message, true) => s.misused 1 message
    | .error (message, false) => s.fault 1 message

end PluginBuild.Shell
