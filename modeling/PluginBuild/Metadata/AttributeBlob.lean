import PluginBuild.Metadata.Model
import PluginBuild.Text.Utf8
/-!
# Attribute blobs

The bytes that hold the arguments of an attribute: the two bytes 01 00 and then one argument after
the other, each laid out as its parameter type says.
-/

namespace PluginBuild.Metadata

open Text

/-- The first `count` bytes and the bytes after them. -/
def takeBytes? (count : Nat) (bytes : List UInt8) : Option (List UInt8 × List UInt8) :=
  if count ≤ bytes.length then some (bytes.splitAt count) else none

/-- The number that bytes stand for, the least significant one first. -/
def littleEndian : List UInt8 → Nat
  | [] => 0
  | b :: rest => b.toNat + 256 * littleEndian rest

/-- The number with a sign that `width` bytes stand for in two's complement. -/
def signedOf (width value : Nat) : Int :=
  if value < Nat.pow 2 (8 * width - 1) then value else Int.subNatNat value (Nat.pow 2 (8 * width))

/-- A number of `width` bytes. -/
def takeInteger? (width : Nat) (bytes : List UInt8) : Option (Int × List UInt8) :=
  (takeBytes? width bytes).map fun cut => (signedOf width (littleEndian cut.1), cut.2)

/-- A length. Its first bits tell whether it takes one, two or four bytes. -/
def takeLength? : List UInt8 → Option (Nat × List UInt8)
  | [] => none
  | first :: rest =>
    let n := first.toNat
    if n < 0x80 then some (n, rest)
    else if n < 0xC0 then
      match rest with
      | second :: rest => some ((n - 0x80) * 256 + second.toNat, rest)
      | [] => none
    else
      match rest with
      | b :: c :: d :: rest =>
        some (n % 32 * 16777216 + b.toNat * 65536 + c.toNat * 256 + d.toNat, rest)
      | _ => none

/-- A string with its length, or the byte FF for the null string. -/
def takeString? : List UInt8 → Option (Option String × List UInt8)
  | [] => none
  | first :: rest =>
    if first = 0xFF then some (none, rest)
    else do
      let (length, rest) ← takeLength? (first :: rest)
      let (bytes, rest) ← takeBytes? length rest
      return (some (String.ofList (decodeLossy bytes)), rest)

/-- The name of a type as a blob writes it, without its assembly and with nested types after a
slash. -/
def typeNameOfBlob (name : String) : String :=
  String.ofList (replaceChar '+' '/' (trim (name.toList.takeWhile (· ≠ ','))))

/-- The argument at the start of the bytes for a parameter of the given type, and the bytes after
it. -/
def takeArg? (param : String) (bytes : List UInt8) : Option (AttributeArg × List UInt8) :=
  let integer (width : Nat) := (takeInteger? width bytes).map fun r => (.integer r.1, r.2)
  match param with
  | "string" => (takeString? bytes).map fun r => (.string r.1, r.2)
  | "System.Type" => (takeString? bytes).map fun r =>
      (match r.1 with
        | some name => .type (typeNameOfBlob name)
        | none => .other "null type", r.2)
  | "bool" => (takeBytes? 1 bytes).map fun r => (.boolean (r.1 != [0]), r.2)
  | "int8" | "uint8" => integer 1
  | "int16" | "uint16" | "char" => integer 2
  | "int32" | "uint32" => integer 4
  | "int64" | "uint64" => integer 8
  | _ => none

/-- The arguments in the bytes. From the first that cannot be read on, each is the text of its
parameter type. -/
def argsFrom (bytes : List UInt8) : List String → List AttributeArg
  | [] => []
  | param :: params =>
    match takeArg? param bytes with
    | some (arg, rest) => arg :: argsFrom rest params
    | none => (param :: params).map .other

/-- The arguments in a blob for parameters of the given types. -/
def argsOfBlob (blob : List UInt8) (params : List String) : List AttributeArg :=
  match blob with
  | 0x01 :: 0x00 :: bytes => argsFrom bytes params
  | _ => params.map .other

end PluginBuild.Metadata
