import PluginBuild.CommandLine.Invocation
import PluginBuild.Text.Blank
/-!
# Help

The texts that describe the program, its commands and their options.
-/

namespace PluginBuild.CommandLine

/-- The name of the program. -/
def programName : String := "plugforge"

/-- The version of the program. -/
def programVersion : String := "0.1.0"

/-- The version line of the program or of a command. -/
def versionText (verb : Option Verb) : String :=
  programName ++ (verb.elim "" fun verb => "-" ++ verb.name) ++ " " ++ programVersion ++ "\n"

/-- The options that ask for help and for the version. -/
def helpOptions : List OptionSpec :=
  [{ switch "help" "Print help" with letter := some 'h' },
    { switch "version" "Print version" with letter := some 'V' }]

/-- How an option is written. -/
def OptionSpec.usage (spec : OptionSpec) : String :=
  "--" ++ spec.name ++ spec.value.elim "" fun value => " <" ++ value.label ++ ">"

/-- How an option is written in the list of options. -/
def OptionSpec.entry (spec : OptionSpec) : String :=
  (spec.letter.elim "    " fun c => String.ofList ['-', c, ',', ' ']) ++ spec.usage

/-- Lines of a name and what it stands for, in two columns. -/
def twoColumns (entries : List (String × String)) : String :=
  let width := (entries.map (·.1.length)).foldl max 0
  String.join (entries.map fun entry => "  " ++ Text.atLeft (width + 2) entry.1 ++ entry.2 ++ "\n")

/-- The list of options. -/
def optionsText (options : List OptionSpec) : String :=
  "Options:\n" ++
    twoColumns ((options ++ helpOptions).map fun spec => (spec.entry, spec.description))

/-- The options that a command needs, as they are written. -/
def Verb.requiredUsage (verb : Verb) : String :=
  String.join ((verb.options.filter (·.name ∈ verb.required)).map fun spec => " " ++ spec.usage)

/-- The help on a command. -/
def Verb.helpText (verb : Verb) : String :=
  verb.description ++ "\n\nUsage: " ++ programName ++ " " ++ verb.name ++ " [OPTIONS]" ++
    verb.requiredUsage ++ "\n\n" ++ optionsText (verb.options ++ commonOptions)

/-- The help on the program. -/
def programHelp : String :=
  "Build native file manager plugins from managed modules\n\nUsage: " ++ programName ++
    " [OPTIONS] <COMMAND>\n\nCommands:\n" ++
    twoColumns (Verb.all.map (fun verb => (verb.name, verb.description)) ++
      [("help", "Print this message or the help of the given subcommand(s)")]) ++
    "\n" ++ optionsText commonOptions

/-- The help on the program or on a command. -/
def helpText (verb : Option Verb) : String := verb.elim programHelp Verb.helpText

end PluginBuild.CommandLine
