import PluginBuild.Files.Store
/-!
# The system of shells

The directories, devices and programs that are there besides the files of a store.
-/

namespace PluginBuild.Shell

open Files (Location Node Store)

namespace System

/-- The directories of the system. -/
def directories : List Location :=
  [["bin"], ["boot"], ["dev"], ["etc"], ["home"], ["lib"], ["media"], ["mnt"], ["opt"], ["proc"],
    ["root"], ["run"], ["sbin"], ["srv"], ["sys"], ["tmp"], ["usr"], ["usr", "bin"],
    ["usr", "lib"], ["usr", "local"], ["usr", "local", "bin"], ["usr", "local", "sbin"],
    ["usr", "sbin"], ["usr", "share"], ["var"], ["var", "tmp"], ["var", "log"]]

/-- The directories that hold the programs. -/
def programDirectories : List Location := [["bin"], ["usr", "bin"]]

/-- The names of the programs. -/
def programs : List String :=
  ["[", "arch", "awk", "base32", "base64", "basename", "cat", "chmod", "cksum", "cmp", "comm",
    "cp", "cut", "dash", "date", "dd", "diff", "dirname", "echo", "egrep", "env", "expand", "expr",
    "false", "fgrep", "find", "fold", "grep", "groups", "head", "id", "install", "join", "kill",
    "ln", "ls", "mawk", "md5sum", "mkdir", "mktemp", "mv", "nice", "nl", "nohup", "od", "paste",
    "printenv", "printf", "pwd", "readlink", "realpath", "rev", "rm", "rmdir", "sed", "seq", "sh",
    "sha1sum", "sha224sum", "sha256sum", "sha384sum", "sha512sum", "sleep", "sort", "split",
    "stat", "sum", "sync", "tac", "tail", "tee", "test", "timeout", "touch", "tr", "true",
    "truncate", "tty", "uname", "unexpand", "uniq", "unlink", "wc", "which", "whoami", "xargs",
    "yes"]

/-- The files of the system. The file of zeros ends where nobody reads on. -/
def files : List (Location × Node) :=
  [(["dev", "null"], .file (.bytes []) false),
    (["dev", "zero"], .file (.bytes (List.replicate 1048576 0)) false),
    (["dev", "stdin"], .file (.bytes []) false), (["dev", "stdout"], .file (.bytes []) false),
    (["dev", "stderr"], .file (.bytes []) false)] ++
  programDirectories.flatMap fun directory =>
    programs.map fun name => (directory ++ [name], .file (.bytes []) true)

/-- What the system consists of. -/
def nodes : List (Location × Node) := directories.map (·, .directory) ++ files

/-- Whether a location belongs to the system. -/
def owns (location : Location) : Bool := directories.any fun directory =>
  directory.length = 1 && directory.isPrefixOf location

/-- A store with the system in it. -/
def install (store : Store) : Store :=
  { store with nodes := store.nodes ++ nodes.filter fun entry => (store.node? entry.1).isNone }

/-- A store without the system, of which there is what there was before. -/
def remove (before after : Store) : Store :=
  { after with
    nodes := after.nodes.filter (!owns ·.1) ++ before.nodes.filter (owns ·.1) }

/-- The name of the program at a location. -/
def program? (location : Location) : Option String :=
  match location.getLast? with
  | some name => if location.dropLast ∈ programDirectories ∧ name ∈ programs then some name
    else none
  | none => none

end System

end PluginBuild.Shell
