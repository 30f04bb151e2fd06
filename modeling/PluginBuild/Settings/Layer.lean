import PluginBuild.Error
import PluginBuild.Text.Blank
import PluginBuild.Text.Numeral
import PluginBuild.Toml.Reader
/-!
# Settings

The settings of a build, and the layers that they are made of. A layer gives some of the settings;
where two layers give one, the upper layer counts, and where none does, its default.
-/

namespace PluginBuild

open Files (Path)

/-- The settings that a document gives. -/
structure SettingsLayer where
  /-- The program that reassembles listings. -/
  reassembler : Option Path
  /-- The program that disassembles modules. -/
  disassembler : Option Path
  sdkAssembly : Option String
  retryAttempts : Option Nat
  retryBackoff : Option Nat
deriving DecidableEq

/-- The settings of a build. -/
structure Settings where
  /-- The program that reassembles listings; without one it is looked for. -/
  reassembler : Option Path
  /-- The program that disassembles modules; without one it is looked for. -/
  disassembler : Option Path
  /-- The name of the assembly with the base classes, without its extension. -/
  sdkAssembly : String
  /-- How often publishing is tried. -/
  retryAttempts : Nat
  /-- The milliseconds between the first two tries. -/
  retryBackoff : Nat
deriving DecidableEq

namespace SettingsLayer

/-- The layer that gives no setting. -/
def empty : SettingsLayer := ⟨none, none, none, none, none⟩

/-- Two layers in one. -/
def onTop (upper lower : SettingsLayer) : SettingsLayer :=
  { reassembler := upper.reassembler.or lower.reassembler
    disassembler := upper.disassembler.or lower.disassembler
    sdkAssembly := upper.sdkAssembly.or lower.sdkAssembly
    retryAttempts := upper.retryAttempts.or lower.retryAttempts
    retryBackoff := upper.retryBackoff.or lower.retryBackoff }

/-- The settings with the defaults for what the layer does not give. -/
def settings (layer : SettingsLayer) : Settings :=
  { reassembler := layer.reassembler
    disassembler := layer.disassembler
    sdkAssembly := layer.sdkAssembly.getD "TcPluginBase"
    retryAttempts := layer.retryAttempts.getD 5
    retryBackoff := layer.retryBackoff.getD 100 }

open Toml (Value)

/-- A string. -/
def text? : Value → Option String
  | .string s => some s
  | _ => none

/-- A whole number from zero up to `top`. -/
def number? (top : Nat) : Value → Option Nat
  | .integer n => if 0 ≤ n ∧ n ≤ top then some n.toNat else none
  | _ => none

/-- The values of a section for its keys, in their order. Other keys are refused. A section may also
be an array with the values in the order of the keys, of which the first `least` are needed. -/
def section? (keys : List String) (least : Nat) : Value → Option (List (Option Value))
  | .table fields =>
    if fields.all fun field => field.1 ∈ keys then some (keys.map (List.lookup · fields))
    else none
  | .array values =>
    if values.length < least then none
    else some ((List.range keys.length).map fun i => values[i]?)
  | _ => none

/-- A value that is taken out if it is there. -/
def optional? {α : Type} (take? : Value → Option α) : Option Value → Option (Option α)
  | none => some none
  | some value => (take? value).map some

/-- The layer with the section for the tools. -/
def withTools? (layer : SettingsLayer) (value : Value) : Option SettingsLayer := do
  match ← section? ["ilasm", "ildasm"] 2 value with
  | [reassembler, disassembler] =>
    let path? (v : Value) : Option Path := (text? v).map (⟨·⟩)
    return { layer with
      reassembler := ← optional? path? reassembler
      disassembler := ← optional? path? disassembler }
  | _ => none

/-- The layer with the section for the base classes. -/
def withSdk? (layer : SettingsLayer) (value : Value) : Option SettingsLayer := do
  match ← section? ["assembly"] 0 value with
  | [assembly] => return { layer with sdkAssembly := ← optional? text? assembly }
  | _ => none

/-- The layer with the section for the output. -/
def withOutput? (layer : SettingsLayer) (value : Value) : Option SettingsLayer := do
  match ← section? ["retry_attempts", "retry_backoff_ms"] 0 value with
  | [attempts, backoff] =>
    return { layer with
      retryAttempts := ← optional? (number? Text.maxWord32) attempts
      retryBackoff := ← optional? (number? Text.maxInt64.toNat) backoff }
  | _ => none

/-- The layer with a section. -/
def withSection? (layer : SettingsLayer) (entry : String × Value) : Option SettingsLayer :=
  if entry.1 = "tools" then layer.withTools? entry.2
  else if entry.1 = "sdk" then layer.withSdk? entry.2
  else if entry.1 = "output" then layer.withOutput? entry.2
  else none

/-- The layer that a document gives. -/
def ofText? (text : List Char) : Option SettingsLayer := do
  (← Toml.read? text).foldlM withSection? empty

end SettingsLayer

namespace Settings

/-- The most tries of publishing. -/
def maxRetryAttempts : Nat := 20

/-- Settings that can be used: the tries are from one to the most, and the assembly with the base
classes has a name. -/
def check (s : Settings) : Except Error Settings :=
  if s.retryAttempts < 1 ∨ maxRetryAttempts < s.retryAttempts then
    .error (.settings ("output.retry_attempts must be between 1 and " ++
      toString maxRetryAttempts))
  else if (Text.trim s.sdkAssembly.toList).isEmpty then
    .error (.settings "sdk.assembly must not be empty")
  else .ok s

/-- The settings that a single document gives. -/
def ofText (text : List Char) : Except Error Settings :=
  match SettingsLayer.ofText? text with
  | none => .error .toml
  | some layer => layer.settings.check

end Settings

end PluginBuild
