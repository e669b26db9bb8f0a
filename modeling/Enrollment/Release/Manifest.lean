import Enrollment.Text.Blank
import Enrollment.Text.Digits
/-!
# Release manifests

The version that a manifest names: the first line start from which there are, with any blanks in
between, the word `version`, an equals sign, and three numbers joined by points in quotes.
-/

namespace Enrollment.Release

open Text (trimStart spanDecimal)

def skipWord (word : List Char) (s : List Char) : Option (List Char) :=
  if word.isPrefixOf s then some (s.drop word.length) else none

/-- One or more digits, and what follows them. -/
def readNumber (s : List Char) : Option (List Char × List Char) :=
  match spanDecimal s with
  | ([], _) => none
  | (digits, rest) => some (digits, rest)

/-- Three numbers joined by points, and what follows them. -/
def readVersion (s : List Char) : Option (List Char × List Char) := do
  let (major, s) ← readNumber s
  let s ← skipWord ['.'] s
  let (minor, s) ← readNumber s
  let s ← skipWord ['.'] s
  let (patch, s) ← readNumber s
  some (major ++ '.' :: minor ++ '.' :: patch, s)

/-- The version that a text starts with an assignment of. -/
def versionAt (s : List Char) : Option (List Char) := do
  let s ← skipWord ['v', 'e', 'r', 's', 'i', 'o', 'n'] (trimStart s)
  let s ← skipWord ['='] (trimStart s)
  let s ← skipWord ['"'] (trimStart s)
  let (version, s) ← readVersion s
  let _ ← skipWord ['"'] s
  some version

/-- The first version in a text, which may start in the middle of a line. -/
def findFrom (atStart : Bool) : List Char → Option (List Char)
  | [] => none
  | c :: rest =>
    match if atStart then versionAt (c :: rest) else none with
    | some version => some version
    | none => findFrom (c == '\n') rest

def version? (manifest : String) : Option String :=
  (findFrom true manifest.toList).map String.ofList

end Enrollment.Release
