import Enrollment.Text.Digits
/-!
# Paths

Names of files as texts, and the files beside, above and below them. A path is cut at slashes;
slashes in a row and points alone, but for one in front, add nothing.
-/

namespace Enrollment.Files

/-- A part of a path, and how many characters of the path there are up to its end. -/
structure Part where
  name : List Char
  stop : Nat
  deriving DecidableEq, Repr

namespace Path

/-- The parts of a path from a position on, given the characters read since the last slash,
backwards. -/
def cut (position : Nat) (pending : List Char) : List Char → List Part
  | [] => if pending.isEmpty then [] else [⟨pending.reverse, position⟩]
  | c :: rest =>
    if c = '/' then
      if pending.isEmpty then cut (position + 1) [] rest
      else ⟨pending.reverse, position⟩ :: cut (position + 1) [] rest
    else cut (position + 1) (c :: pending) rest

def addsNothing (p : Part) : Bool :=
  p.name == ['.'] && p.stop != 1

def parts (path : String) : List Part :=
  (cut 0 [] path.toList).filter fun p => !addsNothing p

def isAbsolute (path : String) : Bool :=
  path.toList.head? == some '/'

/-- The directory that a path lies in; none above the root and above nothing. -/
def parent? (path : String) : Option String :=
  match (parts path).reverse with
  | [] => none
  | [_] => some (if isAbsolute path then "/" else "")
  | _ :: above :: _ => some (String.ofList (path.toList.take above.stop))

def fileName? (path : String) : Option String :=
  match (parts path).getLast? with
  | none => none
  | some p => if p.name = ['.'] ∨ p.name = ['.', '.'] then none else some (String.ofList p.name)

def join (directory path : String) : String :=
  if isAbsolute path then path
  else if directory.isEmpty ∨ directory.toList.getLast? = some '/' then directory ++ path
  else directory ++ "/" ++ path

/-- The path of another file in the same directory. -/
def withFileName (path name : String) : String :=
  match fileName? path with
  | some _ => join ((parent? path).getD "") name
  | none => join path name

/-- What follows the last point in the name of a file, if there is something in front of it. -/
def extensionOf? (path : String) : Option String :=
  match fileName? path with
  | none => none
  | some name =>
    let behind := (name.toList.reverse.takeWhile (· != '.')).reverse
    if behind.length + 1 < name.toList.length then some (String.ofList behind) else none

/-- Whether two paths have the same parts. -/
def sameAs (a b : String) : Bool :=
  isAbsolute a == isAbsolute b && (parts a).map (·.name) == (parts b).map (·.name)

end Path

end Enrollment.Files
