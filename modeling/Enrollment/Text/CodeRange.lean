import Enrollment.Text.Digits
/-!
# Ranges of code points

A property of characters as a list of ranges, written as words: `41-5a` for a range, `5f` for a
single code point, both in hexadecimal.
-/

namespace Enrollment.Text

/-- The code points from `first` to `last`, both included. -/
structure CodeRange where
  first : Nat
  last : Nat
  deriving DecidableEq, Repr

namespace CodeRange

/-- Whether a code point lies in the range. -/
def contains (r : CodeRange) (n : Nat) : Bool :=
  r.first ≤ n && n ≤ r.last

end CodeRange

def splitAtEach (separator : Char) : List Char → List (List Char)
  | [] => [[]]
  | c :: rest =>
    if c = separator then [] :: splitAtEach separator rest
    else
      match splitAtEach separator rest with
      | [] => [[c]]
      | word :: words => (c :: word) :: words

/-- The words of a line: what stands between spaces. -/
def words (line : List Char) : List (List Char) :=
  (splitAtEach ' ' line).filter fun word => !word.isEmpty

/-- The value of a hexadecimal word, zero if it is none. -/
def hexWord (word : List Char) : Nat :=
  (ofHex? word).getD 0

def CodeRange.ofWord (word : List Char) : CodeRange :=
  match splitAtEach '-' word with
  | [first, last] => ⟨hexWord first, hexWord last⟩
  | _ => ⟨hexWord word, hexWord word⟩

/-- The ranges that the words of some lines stand for. -/
def codeRanges (lines : List String) : List CodeRange :=
  lines.flatMap fun line => (words line.toList).map CodeRange.ofWord

def inRanges (ranges : List CodeRange) (c : Char) : Bool :=
  ranges.any fun r => r.contains c.toNat

end Enrollment.Text
