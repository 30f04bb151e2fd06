import PluginBuild.Listing.Item
import PluginBuild.Text.Cut
import PluginBuild.Text.Numeral
/-!
# Export markers

A line `.export [n] as Name` in the body of a method exports the method under a name.
-/

namespace PluginBuild.Listing

open Text

/-- What an export marker says. -/
structure ExportMarker where
  /-- The ordinal, where the line has one that fits in 32 bits. -/
  ordinal : Option Nat
  name : String
deriving DecidableEq

namespace ExportMarker

/-- Whether the text starts with a blank. -/
def startsBlank (s : List Char) : Bool := s.head?.any isBlank

/-- The ordinal in brackets at the start of the text, if there is one, and the text after it. An
unclosed bracket leaves no marker. -/
def takeOrdinal? (s : List Char) : Option (Option Nat × List Char) :=
  match afterPiece? ['['] s with
  | none => some (none, s)
  | some inner =>
    (cutFirst? [']'] inner).map fun cut =>
      (unsigned? 10 maxWord32 (trim cut.1), trimStart cut.2)

/-- The name that follows `as`, up to a line comment and without quotes. -/
def nameAfterAs? (s : List Char) : Option String := do
  let rest ← afterPiece? "as".toList s
  guard (startsBlank rest)
  let name := unquote (trim (beforeFirst "//".toList rest))
  guard (!name.isEmpty)
  return String.ofList name

/-- The marker that a line is. -/
def ofLine? (line : List Char) : Option ExportMarker := do
  let rest ← afterPiece? ".export".toList (trimStart line)
  guard (startsBlank rest || rest.head? == some '[')
  let (ordinal, rest) ← takeOrdinal? (trimStart rest)
  return ⟨ordinal, ← nameAfterAs? rest⟩

end ExportMarker

end PluginBuild.Listing
