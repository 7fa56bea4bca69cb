import BuildRules.Text

/-! Why the system refuses to read a file or to start a command. -/
namespace BuildRules

inductive Fault
  | notFound
  | argumentsTooLong
  | exists
  | notDirectory
  | isDirectory
  | nameTooLong
  | notEmpty
  | linkLoop
  | badDescriptor
  | denied
  | invalid
  | noSpace
  | noDevice
  | notUtf8
  | nulInName
  | nulInCommand
  | other (reason : Text)
deriving DecidableEq, Repr

namespace Fault

/-- What went wrong, without a number. -/
def reason : Fault → Text
  | notFound => "No such file or directory".toList
  | argumentsTooLong => "Argument list too long".toList
  | .exists => "File exists".toList
  | notDirectory => "Not a directory".toList
  | isDirectory => "Is a directory".toList
  | nameTooLong => "File name too long".toList
  | notEmpty => "Directory not empty".toList
  | linkLoop => "Too many levels of symbolic links".toList
  | badDescriptor => "Bad file descriptor".toList
  | denied => "Permission denied".toList
  | invalid => "Invalid argument".toList
  | noSpace => "No space left on device".toList
  | noDevice => "No such device or address".toList
  | notUtf8 => "stream did not contain valid UTF-8".toList
  | nulInName => "file name contained an unexpected NUL byte".toList
  | nulInCommand => "nul byte found in provided data".toList
  | other reason => reason

/-- The system's number for the fault; a fault found before the system is asked has none. -/
def number? : Fault → Option Nat
  | notFound => some 2
  | noDevice => some 6
  | argumentsTooLong => some 7
  | .exists => some 17
  | badDescriptor => some 9
  | denied => some 13
  | notDirectory => some 20
  | isDirectory => some 21
  | invalid => some 22
  | noSpace => some 28
  | nameTooLong => some 36
  | notEmpty => some 39
  | linkLoop => some 40
  | notUtf8 | nulInName | nulInCommand | other _ => none

def message (fault : Fault) : Text :=
  match fault.number? with
  | some n => fault.reason ++ " (os error ".toList ++ Text.ofNat n ++ [')']
  | none => fault.reason

end Fault

end BuildRules
