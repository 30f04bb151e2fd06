import PluginBuild.Shell.State
/-!
# Redirections

What the streams of a shell lead to after a redirection.
-/

namespace PluginBuild.Shell

open Files (Content Failure Node Path)

namespace State

/-- How a failure of opening a file is worded. -/
def openingReason (creating : Bool) : Failure → String
  | .notFound | .notADirectory => if creating then "Directory nonexistent" else "No such file"
  | failure => failure.reason

/-- The stream that a path stands for, whose name the system gives. -/
def systemStream? (target : String) : Option Nat :=
  match target with
  | "/dev/stdin" | "/dev/fd/0" => some 0
  | "/dev/stdout" | "/dev/fd/1" => some 1
  | "/dev/stderr" | "/dev/fd/2" => some 2
  | _ => none

/-- The state with a stream that leads where another one leads. -/
def duplicate (s : State) (number other : Nat) : Except String State :=
  match s.table.lookup other with
  | some index => .ok { s with table := (number, index) :: s.table.filter (·.1 ≠ number) }
  | none => .error (toString other ++ ": Bad file descriptor")

/-- The state with a stream that reads a file. -/
def openSource (s : State) (number : Nat) (target : String) : Except String State :=
  match s.files.find (pathOf target) with
  | .ok (.file content _) => .ok (s.openAs number (.source content.toBytes true))
  | .ok .directory => .ok (s.openAs number .directory)
  | .error failure =>
    .error ("cannot open " ++ target ++ ": " ++ openingReason false failure)

/-- The state with a stream that writes a file, which is emptied unless it is written at its
end. -/
def openTarget (s : State) (number : Nat) (redirection : Redirection) (target : String) :
    Except String State :=
  let failed (failure : Failure) : Except String State :=
    .error ("cannot create " ++ target ++ ": " ++ openingReason true failure)
  let place : Option Nat := if redirection = .append then none else some 0
  if target = "/dev/null" then .ok (s.openAs number .nowhere)
  else
    match s.files.locateFile (pathOf target) with
    | .error failure => failed failure
    | .ok location =>
      let put (content : Content) (executable : Bool) : Except String State :=
        .ok ({ s with files := s.files.put location (.file content executable) }.openAs number
          (.file location place))
      match s.files.node? location with
      | some .directory => failed .isADirectory
      | some (.file content executable) =>
        if redirection = .write ∧ s.options.keepsFiles then failed .alreadyExists
        else put (if place.isNone then content else .bytes []) executable
      | none => put (.bytes []) false

/-- The state after a redirection, or what is wrong with it. -/
def redirect (s : State) (number : Nat) (redirection : Redirection) (target : String) :
    Except String State :=
  match redirection with
  | .document => .ok (s.openAs number (.source (toBytes target.toList) true))
  | .duplicate =>
    if target = "-" then .ok (s.close number)
    else
      match target.toList with
      | [c] =>
        if c.isDigit then s.duplicate number (c.toNat - '0'.toNat)
        else .error "Syntax error: Bad fd number"
      | _ => .error "Syntax error: Bad fd number"
  | .read | .readWrite =>
    match systemStream? target with
    | some other => s.duplicate number other
    | none =>
      if redirection = .readWrite ∧ !s.files.contains (pathOf target) then
        s.openTarget number redirection target
      else s.openSource number target
  | .write | .overwrite | .append =>
    match systemStream? target with
    | some other => s.duplicate number other
    | none => s.openTarget number redirection target

/-- The state after redirections one after the other, and what is wrong with the first one that
cannot be done. -/
def redirectAll (s : State) : List (Nat × Redirection × String) → Option String × State
  | [] => (none, s)
  | (number, redirection, target) :: rest =>
    match s.redirect number redirection target with
    | .error message => (some message, s)
    | .ok s => redirectAll s rest

/-- The state with some streams as they were before. -/
def restoreStreams (s before : State) (numbers : List Nat) : State :=
  let others := s.table.filter (·.1 ∉ numbers)
  { s with table := before.table.filter (·.1 ∈ numbers) ++ others }

end State

end PluginBuild.Shell
