namespace NodeTrial

inductive FileError
  | notFound
  | badFormat
  | denied
  | busy
  | exists
  | notDirectory
  | isDirectory
  | invalidArgument
  | tooLarge
  | noSpace
  | nameTooLong
  | notEmpty
  /-- A path holds a NUL character. -/
  | nulInPath
  /-- An argument of a command holds a NUL character. -/
  | nulInArgument
  deriving DecidableEq, Repr

namespace FileError

def words : FileError → String
  | notFound => "No such file or directory"
  | badFormat => "Exec format error"
  | denied => "Permission denied"
  | busy => "Device or resource busy"
  | «exists» => "File exists"
  | notDirectory => "Not a directory"
  | isDirectory => "Is a directory"
  | invalidArgument => "Invalid argument"
  | tooLarge => "File too large"
  | noSpace => "No space left on device"
  | nameTooLong => "File name too long"
  | notEmpty => "Directory not empty"
  | nulInPath => "file name contained an unexpected NUL byte"
  | nulInArgument => "nul byte found in provided data"

/-- The number of an error in the operating system; none for what it is never asked. -/
def number? : FileError → Option Nat
  | notFound => some 2
  | badFormat => some 8
  | denied => some 13
  | busy => some 16
  | «exists» => some 17
  | notDirectory => some 20
  | isDirectory => some 21
  | invalidArgument => some 22
  | tooLarge => some 27
  | noSpace => some 28
  | nameTooLong => some 36
  | notEmpty => some 39
  | nulInPath => none
  | nulInArgument => none

/-- The wording of an error, with its number if it has one. -/
def message (e : FileError) : String :=
  match e.number? with
  | some n => e.words ++ " (os error " ++ toString n ++ ")"
  | none => e.words

end FileError

end NodeTrial
