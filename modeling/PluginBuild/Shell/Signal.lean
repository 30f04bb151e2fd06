import PluginBuild.Shell.Bytes
/-!
# Signals

The signals that scripts send, and what they do to a process that has not arranged for them.
-/

namespace PluginBuild.Shell

/-- A signal that a process is sent. -/
structure Signal where
  name : String
  number : Nat
  /-- Whether the signal ends the process. -/
  ends : Bool
  /-- What a shell says of a program that the signal has ended. -/
  notice : String
deriving DecidableEq

namespace Signal

/-- The signals with names of their own. -/
def named : List Signal :=
  [⟨"HUP", 1, true, "Hangup"⟩, ⟨"INT", 2, true, ""⟩, ⟨"QUIT", 3, true, "Quit"⟩,
    ⟨"ILL", 4, true, "Illegal instruction"⟩, ⟨"TRAP", 5, true, "Trace/breakpoint trap"⟩,
    ⟨"ABRT", 6, true, "Aborted"⟩, ⟨"BUS", 7, true, "Bus error"⟩,
    ⟨"FPE", 8, true, "Floating point exception"⟩, ⟨"KILL", 9, true, "Killed"⟩,
    ⟨"USR1", 10, true, "User defined signal 1"⟩, ⟨"SEGV", 11, true, "Segmentation fault"⟩,
    ⟨"USR2", 12, true, "User defined signal 2"⟩, ⟨"PIPE", 13, true, ""⟩,
    ⟨"ALRM", 14, true, "Alarm clock"⟩, ⟨"TERM", 15, true, "Terminated"⟩,
    ⟨"16", 16, true, "Stack fault"⟩, ⟨"CHLD", 17, false, ""⟩, ⟨"CONT", 18, false, ""⟩,
    ⟨"STOP", 19, false, ""⟩, ⟨"TSTP", 20, false, ""⟩, ⟨"TTIN", 21, false, ""⟩,
    ⟨"TTOU", 22, false, ""⟩, ⟨"URG", 23, false, ""⟩,
    ⟨"XCPU", 24, true, "CPU time limit exceeded"⟩,
    ⟨"XFSZ", 25, true, "File size limit exceeded"⟩,
    ⟨"VTALRM", 26, true, "Virtual timer expired"⟩,
    ⟨"PROF", 27, true, "Profiling timer expired"⟩, ⟨"WINCH", 28, false, ""⟩,
    ⟨"IO", 29, true, "I/O possible"⟩, ⟨"PWR", 30, true, "Power failure"⟩,
    ⟨"SYS", 31, true, "Bad system call"⟩]

/-- The signals without a meaning. -/
def unnamed : List Signal :=
  (List.range 33).map fun i =>
    let name :=
      if i < 2 then toString (i + 32)
      else if i = 2 then "RTMIN"
      else if i < 18 then "RTMIN+" ++ toString (i - 2)
      else if i < 32 then "RTMAX-" ++ toString (32 - i)
      else "RTMAX"
    let notice := if i < 2 then "Unknown signal " ++ toString (i + 32)
      else "Real-time signal " ++ toString (i - 2)
    ⟨name, i + 32, true, notice⟩

/-- The signals, in the order of their numbers. -/
def all : List Signal := named ++ unnamed

/-- The signal of a number. -/
def ofNumber? (number : Nat) : Option Signal := all.find? (·.number = number)

/-- The signal of a name, in which case does not matter, or of a number. Number zero stands for no
signal at all. -/
def ofText? (text : String) : Option (Option Signal) :=
  match wholeNumber? text with
  | some 0 => some none
  | some number => (ofNumber? number).map some
  | none =>
    if text.toUpper = "EXIT" then some none
    else (all.find? (·.name = text.toUpper)).map some

/-- The exit code of a program that the signal has ended. -/
def status (signal : Signal) : Nat := 128 + signal.number

/-- Whether a process can arrange for the signal. -/
def canBeTrapped (signal : Signal) : Bool := signal.name ≠ "KILL" && signal.name ≠ "STOP"

end Signal

end PluginBuild.Shell
