import Enrollment.Text.Digits
/-!
# Faults of files

Why a file could not be read or changed.
-/

namespace Enrollment.Files

/-- Why a file could not be read or changed. -/
inductive Fault
  | notFound
  | exists
  | notDirectory
  | isDirectory
  | nameTooLong
  | busy
  | badName
  | notText
  | other (words : String)
  deriving DecidableEq, Repr

def Fault.message : Fault → String
  | notFound => "No such file or directory (os error 2)"
  | .exists => "File exists (os error 17)"
  | notDirectory => "Not a directory (os error 20)"
  | isDirectory => "Is a directory (os error 21)"
  | nameTooLong => "File name too long (os error 36)"
  | busy => "Device or resource busy (os error 16)"
  | badName => "file name contained an unexpected NUL byte"
  | notText => "stream did not contain valid UTF-8"
  | other words => words

end Enrollment.Files
