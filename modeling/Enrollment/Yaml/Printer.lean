import Enrollment.Document.Tree
import Enrollment.Yaml.Scalar
/-!
# Writing YAML

A document as a block: a line for each member and item, members of an inner record further to the
right, items of a list as far to the right as the key of the list.
-/

namespace Enrollment.Yaml

open Document (Value)

/-- Blanks in front of a line. -/
def margin (width : Nat) : List Char :=
  List.replicate width ' '

/-- Lines of which all but the first have a margin in front. -/
def under (width : Nat) (lines : List (List Char)) : List Char :=
  (margin width).intercalate lines

/-- A text that is a value, behind what stands in front of it. -/
def textLine (width : Nat) (s : String) : List Char :=
  writeText (margin (width + 2)) s.toList (styleOf s.toList)

mutual

/-- A value behind a key whose line has a margin of the given width. -/
def behindKey (width : Nat) : Value → List Char
  | .null => " null\n".toList
  | .boolean true => " true\n".toList
  | .boolean false => " false\n".toList
  | .natural n => ' ' :: Text.toDecimal n ++ ['\n']
  | .text s => ' ' :: textLine width s
  | .list [] => " []\n".toList
  | .list (v :: rest) => '\n' :: margin width ++ under width (itemLines width (v :: rest))
  | .record [] => " \x7b\x7d\n".toList
  | .record (m :: rest) =>
    '\n' :: margin (width + 2) ++ under (width + 2) (memberLines (width + 2) (m :: rest))

/-- A value that stands alone or behind the dash of an item, where a margin of the given width has
been written or is taken up by the dash. -/
def alone (width : Nat) : Value → List Char
  | .null => "null\n".toList
  | .boolean true => "true\n".toList
  | .boolean false => "false\n".toList
  | .natural n => Text.toDecimal n ++ ['\n']
  | .text s => textLine (width - 2) s
  | .list [] => "[]\n".toList
  | .list (v :: rest) => under width (itemLines width (v :: rest))
  | .record [] => "\x7b\x7d\n".toList
  | .record (m :: rest) => under width (memberLines width (m :: rest))

def itemLines (width : Nat) : List Value → List (List Char)
  | [] => []
  | v :: rest => ('-' :: ' ' :: alone (width + 2) v) :: itemLines width rest

/-- The members of a record. Keys are names that need no quotes. -/
def memberLines (width : Nat) : List (String × Value) → List (List Char)
  | [] => []
  | (key, v) :: rest => (key.toList ++ ':' :: behindKey width v) :: memberLines width rest

end

def print (v : Value) : String :=
  String.ofList (alone 0 v)

end Enrollment.Yaml
