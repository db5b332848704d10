/-!
# Faults of the file system

What a system call can fail with, as far as files and programs go, and the text of it.
-/

namespace Toolchain

/-- Why something could not be done with a file. -/
inductive FileFault
  | notFound
  | badFormat
  | denied
  | alreadyThere
  | notDirectory
  | isDirectory
  | nameTooLong
  | tooManyLinks
  | nulInName
  | nulInArgument
  | notText
  deriving DecidableEq, Repr

namespace FileFault

/-- A fault in words. -/
def reason : FileFault → String
  | notFound => "No such file or directory"
  | badFormat => "Exec format error"
  | denied => "Permission denied"
  | alreadyThere => "File exists"
  | notDirectory => "Not a directory"
  | isDirectory => "Is a directory"
  | nameTooLong => "File name too long"
  | tooManyLinks => "Too many levels of symbolic links"
  | nulInName => "file name contained an unexpected NUL byte"
  | nulInArgument => "nul byte found in provided data"
  | notText => "stream did not contain valid UTF-8"

/-- The number that the system gives a fault; what is noticed before the system is asked has
none. -/
def number? : FileFault → Option Nat
  | notFound => some 2
  | badFormat => some 8
  | denied => some 13
  | alreadyThere => some 17
  | notDirectory => some 20
  | isDirectory => some 21
  | nameTooLong => some 36
  | tooManyLinks => some 40
  | nulInName | nulInArgument | notText => none

/-- A fault in words, with its number. -/
def message (f : FileFault) : String :=
  match f.number? with
  | some n => f.reason ++ " (os error " ++ toString n ++ ")"
  | none => f.reason

end FileFault

end Toolchain
