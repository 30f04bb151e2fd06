import PluginBuild.Files.Path
import PluginBuild.Text.Numeral
import PluginBuild.Text.Utf8
/-!
# Texts of bytes

Shells and their utilities know bytes alone. The texts that they work on have one character for
every byte, and only the names of files are Unicode texts.
-/

namespace PluginBuild.Shell

/-- The text of bytes. -/
def ofBytes (bytes : List UInt8) : List Char := bytes.map fun byte => Char.ofNat byte.toNat

/-- The bytes of a text. -/
def toBytes (text : List Char) : List UInt8 := text.map fun c => UInt8.ofNat c.toNat

/-- The bytes of a Unicode text as a text. -/
def inBytes (text : String) : String := String.ofList (ofBytes (Text.encode text.toList))

/-- The Unicode text that the bytes of a text are. -/
def outOfBytes (text : String) : String := String.ofList (Text.decodeLossy (toBytes text.toList))

/-- The path that a text is. -/
def pathOf (text : String) : Files.Path := ⟨outOfBytes text⟩

/-- The number that the digits of a text are. -/
def wholeNumber? (text : String) : Option Nat := Text.digits? 10 text.toList

/-- The sum of numbers. -/
def total (numbers : List Nat) : Nat := numbers.foldl (· + ·) 0

/-- Whether a character is white space. -/
def isSpace (c : Char) : Bool := c = ' ' || ('\t' ≤ c && c ≤ '\r')

/-- The text without its leading white space. -/
def dropSpace (s : List Char) : List Char := s.dropWhile isSpace

/-- The texts between the places of a character. -/
def splitAt (c : Char) (s : List Char) : List (List Char) := s.splitOn c

/-- The lines of a text, without their line breaks. -/
def linesOf (s : List Char) : List (List Char) :=
  match (s.splitOn '\n').reverse with
  | [] :: rest => rest.reverse
  | lines => lines.reverse

/-- Lines in one text, with a line break after each. -/
def joinLines (lines : List (List Char)) : List Char := lines.flatMap (· ++ ['\n'])

end PluginBuild.Shell
