import Enrollment.Settings.Environment
import Enrollment.Text.Digits
/-!
# Styled text

Text for terminals that show colors, and when there are colors.
-/

namespace Enrollment.Output

inductive Color
  | red
  | green
  | yellow
  | cyan
  deriving DecidableEq, Repr

def Color.code : Color → Nat
  | red => 31
  | green => 32
  | yellow => 33
  | cyan => 36

structure Style where
  bold : Bool := false
  dimmed : Bool := false
  underlined : Bool := false
  color : Option Color := none
  deriving DecidableEq, Repr

namespace Style

def strong : Style := { bold := true }

def weak : Style := { dimmed := true }

def heading : Style := { bold := true, underlined := true }

def colored (c : Color) : Style := { color := some c }

def strongly (c : Color) : Style := { bold := true, color := some c }

def codes (s : Style) : List Nat :=
  (if s.bold then [1] else []) ++ (if s.dimmed then [2] else []) ++
    (if s.underlined then [4] else []) ++ (s.color.map Color.code).toList

def start (s : Style) : List Char :=
  '\x1b' :: '[' :: ";".toList.intercalate (s.codes.map Text.toDecimal) ++ ['m']

end Style

/-- What ends every style. -/
def stop : List Char := ['\x1b', '[', '0', 'm']

/-- A text in which a style starts again wherever something ended it. -/
def restarting (start : List Char) : List Char → List Char
  | '\x1b' :: '[' :: '0' :: 'm' :: rest => stop ++ start ++ restarting start rest
  | c :: rest => c :: restarting start rest
  | [] => []

def paint (hasColors : Bool) (s : Style) (text : String) : String :=
  if hasColors then String.ofList (s.start ++ restarting s.start text.toList ++ stop) else text

/-- Whether there are colors: some variables say so, else they are for terminals. -/
def areColorsWanted (env : Environment) (isTerminal : Bool) : Bool :=
  if (env.value? "CLICOLOR_FORCE").any (· != "0") then true
  else if (env.value? "NO_COLOR").isSome then false
  else isTerminal && (env.value? "CLICOLOR").all (· != "0")

end Enrollment.Output
