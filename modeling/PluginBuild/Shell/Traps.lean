import PluginBuild.Shell.Declarations
/-!
# Traps

Signals that processes send each other, and what shells have arranged for them.
-/

namespace PluginBuild.Shell

namespace State

/-- The state of a shell that has got its signals. One that nothing is arranged for may end it; one
that is to be dropped is dropped. Signals to a copy of a shell are signals to the shell. -/
def receive (s : State) : State :=
  if s.isCopy then s
  else
    s.pending.foldl (fun s (number, signal) =>
      let keep : State := { s with pending := s.pending ++ [(number, signal)] }
      if number ≠ s.number then keep
      else
        match if signal.canBeTrapped then s.traps.lookup signal.name else none with
        | some action => if action.isEmpty then s else keep
        | none =>
          if signal.ends ∧ s.killed.isNone then
            { s with killed := some signal, flow := .ended }
          else s) { s with pending := [] }

/-- The signal that a shell has arranged for and that comes first. -/
def trapped? (s : State) : Option Signal :=
  if s.isCopy then none
  else Signal.all.find? fun signal => s.pending.any (· = (s.number, signal))

/-- The state after a signal has been sent to a process, if there is one. The processes there are
have started the shell or have been started by it. -/
def send? (signal : Option Signal) (number : Nat) (s : State) : Option State :=
  if firstNumber ≤ number ∧ number ≤ s.number then
    some { s with pending := s.pending ++ signal.toList.map (number, ·) }.receive
  else if s.jobs.any fun job => job.number = number && !job.isOver then
    let stop (job : Job) : Job :=
      match signal with
      | some signal =>
        if job.number = number ∧ job.status.isNone ∧ signal.ends then
          { job with status := some signal.status, killed := some signal }
        else job
      | none => job
    some { s with jobs := s.jobs.map stop }
  else none

end State

/-- How the utility that sends signals is used. -/
def killUsage : String :=
  "Usage: kill [-s sigspec | -signum | -sigspec] [pid | job]... or\nkill -l [exitstatus]"

/-- Prints the names of all signals, or of one. -/
def printSignals (s : State) (operands : List String) : State :=
  match operands with
  | [] => (s.print (joinLines ("0" :: Signal.all.map (·.name) |>.map String.toList))).finish 0
  | text :: _ =>
    match wholeNumber? text with
    | none => s.raise ("Illegal number: " ++ text)
    | some number =>
      match Signal.ofNumber? (if number > 128 then number - 128 else number) with
      | some signal => (s.print (signal.name.toList ++ ['\n'])).finish 0
      | none => s.raise ("invalid signal number or exit status: " ++ text)

/-- Sends a signal to processes. -/
def sendAll (signal : Option Signal) (targets : List String) (s : State) : State :=
  targets.foldl (fun s target =>
    if s.flow ≠ .goOn then s
    else if target.startsWith "%" then s.raise ("No such job: " ++ target)
    else
      let isGroup := target.startsWith "-"
      let text := if isGroup then String.ofList (target.toList.drop 1) else target
      match wholeNumber? text with
      | none => s.raise ("Illegal number: " ++ text)
      | some number =>
        match if isGroup then none else s.send? signal number with
        | some s => s
        | none => s.report 1 "No such process\n") (s.finish 0)

/-- Sends signals, or prints their names. -/
def kill (s : State) (arguments : List String) : State :=
  let usage := s.raise killUsage
  let send (signal : Option Signal) (targets : List String) : State :=
    if targets.isEmpty then usage else sendAll signal targets s
  let usual := Signal.ofNumber? 15
  match arguments with
  | [] => usage
  | first :: rest =>
    match first.toList with
    | '-' :: text =>
      match Signal.ofText? (String.ofList text) with
      | some signal => send signal rest
      | none =>
        match Arguments.readInShell ['l'] ['s'] arguments with
        | .error message => s.raise message
        | .ok options =>
          match (options.values 's').find? fun name => (Signal.ofText? name).isNone with
          | some name => s.raise ("invalid signal number or name: " ++ name)
          | none =>
            match options.has 'l', options.value? 's' with
            | true, none => printSignals s options.operands
            | true, some _ => usage
            | false, some name => send ((Signal.ofText? name).getD none) options.operands
            | false, none => send usual options.operands
    | _ => send usual arguments

/-- The name under which something is arranged for a signal, or for the end of the shell. -/
def trapName (signal : Option Signal) : String := signal.elim "EXIT" (·.name)

/-- Prints what is arranged for signals. -/
def printTraps (s : State) : State :=
  let names := "EXIT" :: Signal.all.map (·.name)
  let lines := names.filterMap fun name =>
    (s.traps.lookup name).map fun action =>
      "trap -- ".toList ++ inQuotes action.toList ++ ' ' :: name.toList
  (s.print (joinLines lines)).finish 0

/-- Arranges something for signals, as long as their names are known. -/
def setTraps (action : Option String) (s : State) : List String → State
  | [] => s.finish 0
  | name :: rest =>
    match Signal.ofText? name with
    | none => (s.complain ("trap: " ++ name ++ ": bad trap")).finish 1
    | some signal =>
      let others := s.traps.filter (·.1 ≠ trapName signal)
      setTraps action
        { s with traps := action.toList.map (trapName signal, ·) ++ others } rest

/-- Arranges something for signals, or prints what is arranged. -/
def trap : State → List String → State :=
  State.withOptions [] [] fun arguments s =>
    match arguments.operands with
    | [] => printTraps s
    | action :: names =>
      let isSignal := (wholeNumber? action).isSome ∧ (Signal.ofText? action).isSome
      if names.isEmpty ∨ isSignal then setTraps none s (action :: names)
      else setTraps (if action = "-" then none else some action) s names

end PluginBuild.Shell
