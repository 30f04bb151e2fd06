/-!
# Failures of file operations
-/

namespace PluginBuild.Files

/-- Why an operation on files or programs failed. -/
inductive Failure
  | notFound
  | permissionDenied
  | alreadyExists
  | notADirectory
  | isADirectory
  /-- A file was to take the place of a directory that a path only goes through. -/
  | busy
  | nameTooLong
  /-- A path holds a character that no name can hold. -/
  | invalidName
  /-- A program or an argument of it holds a character that ends texts for the system. -/
  | invalidArgument
  /-- A file is to be run that is no program and names none to run it. -/
  | unknownFormat
  /-- Too many files name each other to run them. -/
  | tooManyLevels
  /-- The bytes of a file are no text. -/
  | invalidData
deriving DecidableEq

/-- The wording of the operating system. -/
def Failure.reason : Failure → String
  | .notFound => "No such file or directory"
  | .permissionDenied => "Permission denied"
  | .alreadyExists => "File exists"
  | .notADirectory => "Not a directory"
  | .isADirectory => "Is a directory"
  | .busy => "Device or resource busy"
  | .nameTooLong => "File name too long"
  | .invalidName => "file name contained an unexpected NUL byte"
  | .invalidArgument => "nul byte found in provided data"
  | .unknownFormat => "Exec format error"
  | .tooManyLevels => "Too many levels of symbolic links"
  | .invalidData => "stream did not contain valid UTF-8"

/-- The number that the operating system gives to a failure. Bytes that are no text are none to
it, and what it cannot be asked for never reaches it. -/
def Failure.code? : Failure → Option Nat
  | .notFound => some 2
  | .permissionDenied => some 13
  | .alreadyExists => some 17
  | .notADirectory => some 20
  | .isADirectory => some 21
  | .busy => some 16
  | .nameTooLong => some 36
  | .unknownFormat => some 8
  | .tooManyLevels => some 40
  | .invalidName | .invalidArgument | .invalidData => none

/-- The wording of a failure with its number. -/
def Failure.message (failure : Failure) : String :=
  failure.reason ++ failure.code?.elim "" fun code => " (os error " ++ toString code ++ ")"

end PluginBuild.Files
