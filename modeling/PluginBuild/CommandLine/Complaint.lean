import PluginBuild.Error
/-!
# Complaints

What the program says of a task that failed: what it was about, and the causes behind it.
-/

namespace PluginBuild

/-- An error and the causes behind it, from the outermost on. -/
def Error.chain (e : Error) : List String :=
  match e with
  | .files failure => [e.message, failure.message]
  | e => [e.message]

namespace CommandLine

/-- What went wrong, and the causes behind it, from the outermost on. -/
structure Complaint where
  summary : String
  causes : List String
deriving DecidableEq

namespace Complaint

/-- The complaint about an error. -/
def ofError (e : Error) : Complaint := ⟨e.message, e.chain.tail⟩

/-- The complaint about something that failed for an error. -/
def about (summary : String) (e : Error) : Complaint := ⟨summary, e.chain⟩

/-- The complaint about something that failed at a file. -/
def aboutFile (summary : String) (failure : Files.Failure) : Complaint :=
  ⟨summary, [failure.message]⟩

/-- A text with a mark before its first line and blanks before the others. -/
def indented (mark blanks : String) (s : String) : String :=
  mark ++ ("\n" ++ blanks).intercalate ((s.toList.splitOn '\n').map String.ofList)

/-- The lines of the causes. Several are numbered. -/
def causesText : List String → String
  | [] => ""
  | [cause] => "\nCaused by:\n" ++ indented "    " "    " cause ++ "\n"
  | causes =>
    "\nCaused by:\n" ++ String.join (causes.zipIdx.map fun (cause, i) =>
      indented ("    " ++ toString i ++ ": ") "       " cause ++ "\n")

/-- The text of a complaint. -/
def text (c : Complaint) : String := "Error: " ++ c.summary ++ "\n" ++ causesText c.causes

end Complaint

end CommandLine

end PluginBuild
