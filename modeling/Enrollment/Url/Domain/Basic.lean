import Enrollment.Url.Domain.Direction
import Enrollment.Url.Domain.Joining
import Enrollment.Url.Domain.Mapping
import Enrollment.Url.Domain.Punycode
/-!
# Domain names

The form in which a domain name is looked up: letters in lower case, labels with other characters
than ASCII written with ASCII alone. Names that would show in more than one way are refused.
-/

namespace Enrollment.Url.Domain

/-- What no domain name may hold. -/
def isForbidden (c : Char) : Bool :=
  c.toNat ≤ 0x20 || c.toNat == 0x7f ||
    c ∈ ['#', '/', ':', '<', '>', '?', '@', '[', '\\', ']', '^', '|', '%']

def isAscii (s : List Char) : Bool :=
  s.all fun c => c.toNat < 0x80

/-- What marks a label as written with ASCII alone. -/
def asciiMark : List Char := ['x', 'n', '-', '-']

/-- Whether a label holds only characters that stay as they are, in composed form, with marks and
joiners in their places. -/
def isWellFormed (label : List Char) : Bool :=
  label.all (fun c => isKept c && !isForbidden c) && composed label == label &&
    (match label with
      | c :: _ => !isCombining c
      | [] => true) &&
    joinersAllowed [] label

def shownLabel? (label : List Char) : Option (List Char) :=
  if asciiMark.isPrefixOf label then
    match Punycode.decode (label.drop asciiMark.length) with
    | some shown => if !isAscii shown && isWellFormed shown then some shown else none
    | none => none
  else if isWellFormed label then some label
  else none

/-- The form of a label with ASCII alone. -/
def asciiLabel (shown : List Char) : List Char :=
  if isAscii shown then shown else asciiMark ++ Punycode.encode shown

/-- The form in which a domain name is looked up. -/
def toAscii? (s : List Char) : Option (List Char) := do
  let mapped ← mapChars s
  let labels := Text.splitAtEach '.' (composed mapped)
  let shown ← labels.mapM shownLabel?
  if shown.any isRightToLeft && !shown.all keepsDirection then none
  else
    let found := ['.'].intercalate (shown.map asciiLabel)
    if found.any isForbidden then none else some found

end Enrollment.Url.Domain
