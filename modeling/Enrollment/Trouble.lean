import Enrollment.Failure
/-!
# Trouble

What a user is told of a command that failed: what went wrong, and what that rests on, from the
outermost cause to the innermost.
-/

namespace Enrollment

/-- What is told of a command that failed. -/
structure Trouble where
  message : String
  /-- What it rests on, the outermost cause first. -/
  causes : List String := []
  deriving DecidableEq, Repr

/-- A failure, and the fault of a document that it may rest on. -/
def Failure.toTrouble (f : Failure) : Trouble :=
  ⟨f.message, f.cause?.toList⟩

namespace Trouble

/-- All that is told, the outermost text first. -/
def texts (t : Trouble) : List String :=
  t.message :: t.causes

def within (t : Trouble) (context : String) : Trouble :=
  ⟨context, t.texts⟩

/-! ## Reports -/

/-- A cause behind a label; further lines of it are as far to the right. -/
def causeText (label cause : String) : String :=
  let margin := String.ofList (List.replicate label.length ' ')
  label ++ ("\n" ++ margin).intercalate (cause.splitOn "\n")

def numberLabel (n : Nat) : String :=
  let number := Text.toDecimal n
  String.ofList (List.replicate (5 - number.length) ' ' ++ number ++ [':', ' '])

/-- Causes with numbers, from the given one on. -/
def numbered (n : Nat) : List String → List String
  | [] => []
  | cause :: rest => causeText (numberLabel n) cause :: numbered (n + 1) rest

/-- Causes as they are printed: numbered if there are several. -/
def causeTexts : List String → List String
  | [cause] => [causeText "    " cause]
  | causes => numbered 0 causes

def report (t : Trouble) : String :=
  let causes := match t.causes with
    | [] => ""
    | causes => "\n\nCaused by:\n" ++ "\n".intercalate (causeTexts causes)
  "Error: " ++ t.message ++ causes ++ "\n"

end Trouble

end Enrollment
