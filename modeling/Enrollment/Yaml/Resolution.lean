import Enrollment.Document.Magnitude
/-!
# What plain text stands for in YAML

Without quotes, some texts are read as something else than texts: as nothing, as a truth value, as
an integer in one of four bases, or as a number with a point or an exponent.
-/

namespace Enrollment.Yaml

open Document (Numeral)
open Text (isDecimal)

/-! ## Words -/

def nullWords : List String := ["null", "Null", "NULL", "~"]

/-- The words that stand for truth values. -/
def booleanWords : List String := ["true", "True", "TRUE", "false", "False", "FALSE"]

/-- The words that stand for numbers without digits. -/
def numberWords : List String :=
  [".inf", ".Inf", ".INF", "+.inf", "+.Inf", "+.INF", "-.inf", "-.Inf", "-.INF",
    ".nan", ".NaN", ".NAN"]

/-- Whether a text is a word with a meaning of its own. -/
def isWord (s : List Char) : Bool :=
  (nullWords ++ booleanWords ++ numberWords).any fun w => w.toList == s

/-! ## Integers -/

/-- A text without a sign in front. -/
def withoutSign (s : List Char) : List Char :=
  match s with
  | '+' :: rest => rest
  | '-' :: rest => rest
  | s => s

/-- Digits with a zero in front of others: no number, but quoted all the same. -/
def isZeroPadded (s : List Char) : Bool :=
  match withoutSign s with
  | '0' :: c :: rest => (c :: rest).all isDecimal
  | _ => false

/-- Whether a text is digits of a base that stand for less than a bound. -/
def isBelow (bound base : Nat) (s : List Char) : Bool :=
  !s.isEmpty && (Text.ofBase? base Text.hexValue? 0 s).any fun n => n < bound

/-- Whether a text without its sign is an integer below a bound. -/
def isMagnitude (bound : Nat) (s : List Char) : Bool :=
  match s with
  | '0' :: 'x' :: rest => isBelow bound 16 rest
  | '0' :: 'o' :: rest => isBelow bound 8 rest
  | '0' :: 'b' :: rest => isBelow bound 2 rest
  | s => (Text.ofDecimal? s).any fun n => n < bound

/-- Whether a text is an integer of at most 128 bits. -/
def isInteger (s : List Char) : Bool :=
  match s with
  | '-' :: rest => isMagnitude (Nat.pow 2 127 + 1) rest
  | '+' :: rest => isMagnitude (Nat.pow 2 128) rest
  | s => isMagnitude (Nat.pow 2 128) s

/-! ## Other numbers -/

/-- The digits behind a point, if there is one, and what follows them. -/
def readFraction (s : List Char) : Option (List Char) × List Char :=
  match s with
  | '.' :: rest => (some (rest.takeWhile isDecimal), rest.dropWhile isDecimal)
  | s => (none, s)

/-- Whether nothing follows, or an exponent and nothing else; and then that exponent. -/
def readExponent? (s : List Char) : Option (Option (Bool × List Char)) :=
  match s with
  | [] => some none
  | c :: rest =>
    let digits := withoutSign rest
    if (c == 'e' || c == 'E') && digits.all isDecimal && !digits.isEmpty then
      some (some (rest.head? == some '-', digits))
    else none

/-- A whole part, a fraction and an exponent, of which there are enough digits. -/
def readNumeral? (s : List Char) : Option Numeral :=
  let whole := s.takeWhile isDecimal
  let (fraction, s) := readFraction (s.dropWhile isDecimal)
  if whole.isEmpty && (fraction.getD []).isEmpty then none
  else (readExponent? s).map fun exponent => ⟨false, whole, fraction, exponent⟩

/-- Whether a text is a number that is not too large. -/
def isNumber (s : List Char) : Bool :=
  match readNumeral? (withoutSign s) with
  | some n => n.isFinite
  | none => false

/-! ## Together -/

/-- Whether a text has to stand in quotes, lest it be read as something else than a text or be
taken for a number. -/
def needsQuotes (s : List Char) : Bool :=
  s.isEmpty || isWord s || isInteger s || isNumber s || isZeroPadded s

end Enrollment.Yaml
