import PluginBuild.Text.Blank
import PluginBuild.Text.Lines
import PluginBuild.Listing.Malformed
/-!
# Logical lines of a listing

A logical line is a run of physical lines that ends where the parentheses balance. Parentheses and
braces in literals and comments do not count. A literal ends with its physical line at the latest;
a block comment goes on over line feeds.
-/

namespace PluginBuild.Listing

/-- What a character of a listing belongs to. -/
inductive Part
  | code
  | literal
  | comment
deriving DecidableEq

/-- What the characters before a character make of it. -/
inductive Mode
  | code
  | literal (quote : Char)
  | escaped (quote : Char)
  | lineComment
  | openingComment
  | blockComment
  | closingComment
deriving DecidableEq

/-- The part a character belongs to, and the mode after it. The character that follows decides
whether a comment opens or closes here. -/
def Mode.step (mode : Mode) (c : Char) (next : Option Char) : Part × Mode :=
  match mode with
  | .code =>
    if c = '/' ∧ next = some '/' then (.comment, .lineComment)
    else if c = '/' ∧ next = some '*' then (.comment, .openingComment)
    else if c = '"' ∨ c = '\'' then (.literal, .literal c)
    else (.code, .code)
  | .literal quote =>
    if c = '\\' then (.literal, .escaped quote)
    else if c = quote ∨ c = '\n' then (.literal, .code)
    else (.literal, .literal quote)
  | .escaped quote => (.literal, .literal quote)
  | .lineComment => (.comment, .lineComment)
  | .openingComment => (.comment, .blockComment)
  | .blockComment =>
    if c = '*' ∧ next = some '/' then (.comment, .closingComment) else (.comment, .blockComment)
  | .closingComment => (.comment, .code)

/-- The characters of a physical line with their parts, and the mode after the last one. -/
def Mode.read (mode : Mode) : List Char → List (Char × Part) × Mode
  | [] => ([], mode)
  | c :: rest =>
    let here := mode.step c rest.head?
    let after := here.2.read rest
    ((c, here.1) :: after.1, after.2)

/-- The mode at the start of the next physical line: only a block comment goes on. -/
def Mode.atNextLine : Mode → Mode
  | .blockComment => .blockComment
  | _ => .code

/-- How often a character stands in code. -/
def countCode (c : Char) (marks : List (Char × Part)) : Nat := marks.count (c, .code)

/-- A logical line. -/
structure Line where
  /-- The text with its line feeds. -/
  text : List Char
  /-- The number of bytes before the line. -/
  start : Nat
  /-- The number of its first physical line, counted from one. -/
  number : Nat
  /-- The opening braces in code. -/
  opens : Nat
  /-- The closing braces in code. -/
  closes : Nat
deriving DecidableEq

namespace Line

/-- The opening braces less the closing ones. -/
def net (line : Line) : Int := line.opens - line.closes

/-- The number of bytes before the end of the line. -/
def stop (line : Line) : Nat := line.start + Text.byteLength line.text

/-- The text without the blanks around it. -/
def trimmed (line : Line) : List Char := Text.trim line.text

/-- The first word, a directive such as `.method`. -/
def keyword (line : Line) : String := String.ofList (Text.firstWord line.text)

/-- A line that starts at a place and has no text yet. -/
def emptyAt (start number : Nat) : Line := ⟨[], start, number, 0, 0⟩

/-- The line with a further physical line at its end. -/
def extend (line : Line) (marks : List (Char × Part)) : Line :=
  { line with
    text := line.text ++ marks.map (·.1)
    opens := line.opens + countCode '{' marks
    closes := line.closes + countCode '}' marks }

end Line

/-- The opening parentheses in code less the closing ones. -/
def netParens (marks : List (Char × Part)) : Int :=
  (countCode '(' marks : Int) - countCode ')' marks

/-- The logical lines of physical lines that start in the given mode, at the given physical line
number and byte. A line that is still open comes with its open parentheses. -/
def logicalFrom (mode : Mode) (number offset : Nat) (pending : Option (Line × Int)) :
    List (List Char) → Except Malformed (List Line)
  | [] =>
    match pending with
    | none => .ok []
    | some (line, _) => .error ⟨line.number, .openParenAtEnd⟩
  | physical :: rest =>
    let marks := (mode.read physical).1
    let next := (mode.read physical).2.atNextLine
    let opened := pending.getD (Line.emptyAt offset number, 0)
    let line := opened.1.extend marks
    let parens := opened.2 + netParens marks
    let offset' := offset + Text.byteLength physical
    if parens < 0 then .error ⟨number, .closeParen⟩
    else if 0 < parens then logicalFrom next (number + 1) offset' (some (line, parens)) rest
    else do return line :: (← logicalFrom next (number + 1) offset' none rest)

/-- The logical lines of a text. -/
def logicalLines (text : List Char) : Except Malformed (List Line) :=
  logicalFrom .code 1 0 none (Text.physicalLines text)

end PluginBuild.Listing
