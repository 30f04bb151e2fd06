import PluginBuild.Shell.Arguments
import PluginBuild.Shell.State
/-!
# Reading lines

The utility of shells that reads a line into variables.
-/

namespace PluginBuild.Shell

/-- A line at the start of bytes, in which characters may be quoted. -/
structure ReadLine where
  line : List (Char × Bool)
  rest : List UInt8
  /-- Whether a line break has been found. -/
  isWhole : Bool

namespace ReadLine

/-- The line at the start of bytes. Unless it is `raw` a backslash quotes, and hides a line
break. -/
def ofBytes (raw : Bool) : List UInt8 → ReadLine
  | [] => ⟨[], [], false⟩
  | byte :: rest =>
    let add (c : Char) (quoted : Bool) (found : ReadLine) : ReadLine :=
      { found with line := (c, quoted) :: found.line }
    if byte = 10 then ⟨[], rest, true⟩
    else if byte = 0 then ofBytes raw rest
    else if byte = 92 ∧ !raw then
      match rest with
      | [] => ⟨[], [], false⟩
      | next :: rest =>
        if next = 10 then ofBytes raw rest
        else add (Char.ofNat next.toNat) true (ofBytes raw rest)
    else add (Char.ofNat byte.toNat) false (ofBytes raw rest)

/-- How a character parts fields. -/
inductive Separation
  | none
  | blank
  | mark
deriving DecidableEq

/-- How characters of a line part fields. -/
def separation (separators : List Char) (entry : Char × Bool) : Separation :=
  if entry.2 ∨ entry.1 ∉ separators then .none
  else if entry.1 = ' ' ∨ entry.1 = '\t' ∨ entry.1 = '\n' then .blank
  else .mark

/-- The last field, of which the characters so far are reversed. `kept` is the part of it before
separators at its end, and `afterBlank` tells whether a mark may follow blanks. -/
def lastField (separators : List Char) (all : List Char) (kept : Option (List Char))
    (afterBlank : Bool) : List (Char × Bool) → List Char
  | [] => (kept.getD all).reverse
  | entry :: rest =>
    match separation separators entry with
    | .blank => lastField separators (entry.1 :: all) (some (kept.getD all)) afterBlank rest
    | .mark =>
      lastField separators (entry.1 :: all) (if afterBlank then kept else none) false rest
    | .none => lastField separators (entry.1 :: all) none false rest

/-- The fields of a line, at most `count + 1` of them. The characters of the field that is open are
reversed. -/
def fields (separators : List Char) :
    Nat → Bool → List Char → List (Char × Bool) → List (List Char)
  | _, _, opened, [] => if opened.isEmpty then [] else [opened.reverse]
  | count, afterBlank, opened, entry :: rest =>
    let kind := separation separators entry
    if afterBlank then
      match kind with
      | .blank => fields separators count true [] rest
      | .mark => fields separators count false [] rest
      | .none => fields separators count false [entry.1] rest
    else
      match kind, count with
      | .none, _ => fields separators count false (entry.1 :: opened) rest
      | .blank, 0 =>
        if opened.isEmpty then fields separators 0 false [] rest
        else [lastField separators (entry.1 :: opened) (some opened) true rest]
      | .mark, 0 => [lastField separators (entry.1 :: opened) (some opened) false rest]
      | .blank, count + 1 =>
        if opened.isEmpty then fields separators (count + 1) false [] rest
        else opened.reverse :: fields separators count true [] rest
      | .mark, count + 1 => opened.reverse :: fields separators count false [] rest

end ReadLine

/-- Assigns values to variables, as long as that works. -/
def assignFields (names : List String) (fields : List (List Char)) (s : State) : State :=
  match names with
  | [] => s
  | name :: rest =>
    if s.flow ≠ .goOn then s
    else if isName name.toList then
      assignFields rest fields.tail (s.assign name (String.ofList (fields.headD [])))
    else s.raise (name ++ ": bad variable name")

/-- Reads a line into variables. The last variable takes all that is left of the line. -/
def read (s : State) (arguments : List String) : State :=
  match Arguments.readInShell ['r'] ['p'] arguments with
  | .error message => s.raise message
  | .ok ⟨_, []⟩ => s.raise "arg count"
  | .ok ⟨options, first :: names⟩ =>
    let found := ReadLine.ofBytes (options.any (·.1 = 'r')) (s.left 0)
    let fields := ReadLine.fields s.separators names.length false [] found.line
    let after := assignFields (first :: names) fields (s.leave 0 found.rest)
    if after.flow = .goOn then after.finish (if found.isWhole then 0 else 1) else after

end PluginBuild.Shell
