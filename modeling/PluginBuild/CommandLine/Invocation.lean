import PluginBuild.Build.Run
import PluginBuild.CommandLine.Options
/-!
# Invocations

The commands of the program with their options, and the task that arguments ask for.
-/

namespace PluginBuild

open Files (Path)

/-- The template that a text gives as an architecture and a path with an equals sign between. -/
def Template.ofText? (s : String) : Option Template := do
  let (architecture, path) ← Text.cutFirst? ['='] s.toList
  let architecture ← (Architecture.ofText (String.ofList architecture)).toOption
  return ⟨architecture, ⟨String.ofList path⟩⟩

namespace CommandLine

/-- What the program is asked to do. -/
inductive Task
  /-- Builds a plugin and reports on it. -/
  | build (request : BuildRequest) (json : Bool)
  /-- Reports what a module declares and which exports its native module keeps. -/
  | analyze (source : MetadataSource) (json : Bool)
  /-- Writes the listing of a native module without the exports that are stripped. -/
  | trim (source : MetadataSource) (input output : Path)
  /-- Lists the contracts of a kind, or of all. -/
  | catalog (kind : Option PluginKind)
deriving DecidableEq

/-- A command of the program. -/
inductive Verb
  | build
  | analyze
  | trim
  | catalog
deriving DecidableEq

/-- What a list of arguments asks for. -/
inductive Invocation
  /-- A task, with the settings document that the arguments name. -/
  | task (task : Task) (settings : Option Path)
  /-- Help on the program or on a command. -/
  | help (verb : Option Verb)
  /-- The version of the program or of a command. -/
  | version (verb : Option Verb)
  | refused
deriving DecidableEq

/-- Paths, which are not empty. -/
def pathValue (label : String) : ValueSpec := ⟨label, (· ≠ "")⟩

/-- Texts of any kind. -/
def textValue (label : String) : ValueSpec := ⟨label, fun _ => true⟩

/-- An option that takes one value. -/
def single (name : String) (value : ValueSpec) (description : String) : OptionSpec :=
  ⟨name, none, some value, false, description⟩

/-- An option that takes any number of values. -/
def repeated (name : String) (value : ValueSpec) (description : String) : OptionSpec :=
  ⟨name, none, some value, true, description⟩

/-- An option that takes no value. -/
def switch (name : String) (description : String) : OptionSpec :=
  ⟨name, none, none, false, description⟩

/-- The options of every command and of the program itself. -/
def commonOptions : List OptionSpec :=
  [single "config" (pathValue "CONFIG")
      "Configuration file (defaults to $PLUGFORGE_CONFIG, then ./plugforge.toml)",
    { switch "verbose" "Verbose output" with letter := some 'v' }]

/-- The options that say where metadata come from. -/
def metadataOptions : List OptionSpec :=
  [single "metadata-json" (pathValue "METADATA_JSON") "JSON metadata dump of the managed module",
    single "il" (pathValue "IL") "Disassembled managed module",
    repeated "reference-il" (pathValue "REFERENCE_IL") "Disassembled reference module (repeatable)"]

namespace Verb

/-- All commands. -/
def all : List Verb := [build, analyze, trim, catalog]

/-- The name of a command. -/
def name : Verb → String
  | build => "build"
  | analyze => "analyze"
  | trim => "trim"
  | catalog => "catalog"

/-- What a command does. -/
def description : Verb → String
  | build => "Analyze, trim, reassemble and package a plugin"
  | analyze => "Report the plugin declarations and export decision"
  | trim => "Remove stripped exports from wrapper IL text"
  | catalog => "Print the contract tables"

/-- The options of a command besides the common ones. -/
def options : Verb → List OptionSpec
  | build =>
    [single "assembly" (pathValue "ASSEMBLY") "Compiled managed plugin assembly"] ++
      metadataOptions ++
      [repeated "wrapper" ⟨"WRAPPERS", fun s => (Template.ofText? s).isSome⟩
          "Wrapper template as ARCH=PATH; the first is the primary wrapper",
        repeated "reference" (pathValue "REFERENCES") "Reference file to bundle (repeatable)",
        single "out" (pathValue "OUT") "Output directory [default: .]",
        single "rid" (textValue "RID") "Runtime identifier appended to the archive name",
        single "name" (textValue "NAME") "Plugin name (defaults to the assembly name)",
        single "default-extension" (textValue "DEFAULT_EXTENSION") "Packer default extension",
        switch "json" "Print the outcome as JSON"]
  | analyze => metadataOptions ++ [switch "json" "Print the analysis as JSON"]
  | trim =>
    metadataOptions ++
      [single "input" (pathValue "INPUT") "Wrapper IL text to trim",
        single "output" (pathValue "OUTPUT") "Where to write the trimmed text"]
  | catalog =>
    [single "kind" ⟨"KIND", fun s => (PluginKind.ofText s).isOk⟩ "Only this kind"]

/-- The options that a command needs. -/
def required : Verb → List String
  | build => ["assembly", "wrapper"]
  | trim => ["input", "output"]
  | analyze | catalog => []

/-- The command of a name. -/
def ofName? (name : String) : Option Verb := all.find? (·.name = name)

end Verb

namespace Given

/-- The path that an option gives. -/
def path? (given : Given) (name : String) : Option Path := (given.value? name).map Files.Path.mk

/-- The paths that an option gives. -/
def paths (given : Given) (name : String) : List Path := (given.values name).map Files.Path.mk

/-- Where metadata come from. -/
def source (given : Given) : MetadataSource :=
  match given.path? "metadata-json", given.path? "il" with
  | some dump, _ => .dump dump
  | none, some module => .listings module (given.paths "reference-il")
  | none, none => .assembly

/-- Whether the options agree: a dump and a listing exclude each other, and references go with
either. -/
def agrees (given : Given) : Bool :=
  !(given.has "metadata-json" && given.has "il") &&
    (!given.has "reference-il" || given.has "il" || given.has "metadata-json")

/-- The build that options ask for. -/
def buildRequest (given : Given) : BuildRequest :=
  { assembly := (given.path? "assembly").getD ⟨""⟩
    metadata := given.source
    templates := (given.values "wrapper").filterMap Template.ofText?
    references := given.paths "reference"
    output := (given.path? "out").getD ⟨"."⟩
    runtime := given.value? "rid"
    name := given.value? "name"
    defaultExtension := given.value? "default-extension" }

/-- The task of a command with options. -/
def task (given : Given) : Verb → Task
  | .build => .build given.buildRequest (given.has "json")
  | .analyze => .analyze given.source (given.has "json")
  | .trim =>
    .trim given.source ((given.path? "input").getD ⟨""⟩) ((given.path? "output").getD ⟨""⟩)
  | .catalog => .catalog ((given.value? "kind").bind fun s => (PluginKind.ofText s).toOption)

end Given

namespace Invocation

/-- What a reading that has stopped asks for. -/
def ofStop (verb : Option Verb) : Stop → Invocation
  | .refused => refused
  | .help => help verb
  | .version => version verb

/-- What the arguments of a command ask for, where `outer` are the options before the command. -/
def ofCommand (outer : Given) (verb : Verb) (arguments : List String) : Invocation :=
  match OptionSpec.read (verb.options ++ commonOptions) [] arguments with
  | .error stop => ofStop (some verb) stop
  | .ok (_, _ :: _) => refused
  | .ok (given, []) =>
    if given.agrees && verb.required.all given.has then
      task (given.task verb) ((given.path? "config").or (outer.path? "config"))
    else refused

/-- What a request for help asks for. -/
def ofHelp : List String → Invocation
  | [] => help none
  | [name] =>
    if name = "help" then help none
    else
      match Verb.ofName? name with
      | some verb => help (some verb)
      | none => refused
  | _ => refused

/-- What arguments ask for. -/
def ofArguments (arguments : List String) : Invocation :=
  match OptionSpec.read commonOptions [] arguments with
  | .error stop => ofStop none stop
  | .ok (_, []) => refused
  | .ok (outer, name :: rest) =>
    if name = "help" then ofHelp rest
    else
      match Verb.ofName? name with
      | some verb => ofCommand outer verb rest
      | none => refused

end Invocation

end CommandLine

end PluginBuild
