import PluginBuild.Digest.Bytes
import PluginBuild.Text.Utf8
/-!
# Archives

Named sequences of bytes in one file, in the ZIP format. Entries are stored as they are; a directory
of them comes at the end, so an archive that has not been finished cannot be read. The checksum of
every entry is its CRC-32.
-/

namespace PluginBuild.Digest

/-- The CRC-32 after one bit. -/
def crcBit (crc : UInt32) : UInt32 :=
  if crc &&& 1 = 0 then crc >>> 1 else (crc >>> 1) ^^^ 0xEDB88320

/-- The CRC-32 after one byte. -/
def crcByte (crc : UInt32) (byte : UInt8) : UInt32 :=
  (List.range 8).foldl (fun crc _ => crcBit crc) (crc ^^^ byte.toUInt32)

/-- The CRC-32 of a sequence of bytes. -/
def crc32 (bytes : List UInt8) : UInt32 := bytes.foldl crcByte 0xFFFFFFFF ^^^ 0xFFFFFFFF

end PluginBuild.Digest

namespace PluginBuild.Files

open Digest (littleEndian)

/-- An entry of an archive. -/
structure Entry where
  name : String
  bytes : List UInt8
deriving DecidableEq

/-- An archive. -/
structure Archive where
  /-- The entries in their order. -/
  entries : List Entry
  /-- Whether all entries have been written. -/
  finished : Bool
deriving DecidableEq

namespace Archive

/-- What both headers of an entry say: names are in UTF-8, the entry is stored, it dates from the
first day of 1980, its checksum, its size before and after, and the length of its name. -/
def description (entry : Entry) : List UInt8 :=
  let size := littleEndian 4 entry.bytes.length
  littleEndian 2 20 ++ littleEndian 2 0x0800 ++ littleEndian 2 0 ++ littleEndian 2 0 ++
    littleEndian 2 0x21 ++ littleEndian 4 (Digest.crc32 entry.bytes).toNat ++ size ++ size ++
    littleEndian 2 (Text.encode entry.name.toList).length ++ littleEndian 2 0

/-- An entry with the header before it. -/
def stored (entry : Entry) : List UInt8 :=
  littleEndian 4 0x04034b50 ++ description entry ++ Text.encode entry.name.toList ++ entry.bytes

/-- The line of the directory for an entry that starts at `offset`. -/
def listed (entry : Entry) (offset : Nat) : List UInt8 :=
  littleEndian 4 0x02014b50 ++ littleEndian 2 20 ++ description entry ++ littleEndian 10 0 ++
    littleEndian 4 offset ++ Text.encode entry.name.toList

/-- The lines of the directory for entries of which the first starts at `offset`. -/
def directory (offset : Nat) : List Entry → List UInt8
  | [] => []
  | entry :: rest => listed entry offset ++ directory (offset + (stored entry).length) rest

/-- The bytes of an archive. -/
def toBytes (archive : Archive) : List UInt8 :=
  let content := archive.entries.flatMap stored
  if archive.finished then
    let directory := directory 0 archive.entries
    let count := littleEndian 2 archive.entries.length
    content ++ directory ++ littleEndian 4 0x06054b50 ++ littleEndian 4 0 ++ count ++ count ++
      littleEndian 4 directory.length ++ littleEndian 4 content.length ++ littleEndian 2 0
  else content

end Archive

end PluginBuild.Files
