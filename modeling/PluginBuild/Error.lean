import PluginBuild.Files.Failure
import PluginBuild.Files.Path
import PluginBuild.Listing.Malformed
import PluginBuild.Plugin.Kind
/-!
# Errors

The ways in which the analysis of a plugin, its packaging and its build fail.
-/

namespace PluginBuild

open Files (Path)

/-- Why an operation failed. -/
inductive Error
  /-- A module has no valid plugin declaration. -/
  | noPluginFound (module : String) (diagnostics : List String)
  /-- A module declares several classes for one kind. -/
  | ambiguousDeclaration (module : String) (kind : PluginKind) (declarations : List String)
  /-- A module declares kinds that no native module serves together. -/
  | conflictingKinds (kinds : List PluginKind)
  /-- The arguments of a declaration cannot be used. -/
  | invalidDeclaration (declaration reason : String)
  /-- A listing does not balance. -/
  | malformedListing (line : Nat) (reason : String)
  /-- A tool ended without success. -/
  | toolFailed (tool : String) (code : Option Int) (diagnostics : String)
  /-- An output stayed locked through all attempts. -/
  | outputLocked (path : Path) (attempts : Nat)
  | missingInput (path : Path)
  | toolNotFound (tool : String)
  | cancelled
  | metadata (message : String)
  | settings (message : String)
  | files (failure : Files.Failure)
  /-- A text is not the JSON that was expected. -/
  | json
  /-- A text is not the TOML that was expected. -/
  | toml
deriving DecidableEq

namespace Error

/-- How the diagnostics of a module without a plugin are added to a message. -/
def diagnosticsText (diagnostics : List String) : String :=
  if diagnostics.isEmpty then "" else " (" ++ "; ".intercalate diagnostics ++ ")"

/-- How the end of a process is put in a message. -/
def codeText : Option Int → String
  | some code => "exit code " ++ toString code
  | none => "terminated"

/-- The wording of an error. -/
def message : Error → String
  | noPluginFound module diagnostics =>
    "no plugin declaration found in " ++ module ++ diagnosticsText diagnostics
  | ambiguousDeclaration module kind declarations =>
    "ambiguous " ++ kind.name ++ " plugin declaration in " ++ module ++ ": " ++
      ", ".intercalate declarations
  | conflictingKinds kinds =>
    "conflicting plugin kinds: " ++ " + ".intercalate (kinds.map PluginKind.name)
  | invalidDeclaration declaration reason =>
    "invalid plugin declaration `" ++ declaration ++ "`: " ++ reason
  | malformedListing line reason =>
    "malformed module text at line " ++ toString line ++ ": " ++ reason
  | toolFailed tool code diagnostics =>
    tool ++ " failed (" ++ codeText code ++ "): " ++ diagnostics
  | outputLocked path attempts =>
    "could not write " ++ path.quoted ++ " after " ++ toString attempts ++ " attempts"
  | missingInput path => "required input not found: " ++ path.quoted
  | toolNotFound tool => "tool not found: " ++ tool
  | cancelled => "build cancelled"
  | metadata message => "metadata error: " ++ message
  | settings message => "configuration error: " ++ message
  | files failure => "IO error: " ++ failure.message
  | json => "JSON error"
  | toml => "TOML error"

/-- Whether the operation goes on after an error: only an unusable declaration is passed over. -/
def isWarning : Error → Bool
  | invalidDeclaration .. => true
  | _ => false

/-- The error that a fault of a listing is. -/
def ofMalformed (malformed : Listing.Malformed) : Error :=
  malformedListing malformed.line malformed.fault.message

end Error

end PluginBuild
