import Enrollment.Url.Parser
/-!
# References

A text that is read from a URL of the web. With a scheme of its own it is a URL; otherwise it says what
becomes of that URL from the host, the path, the query or the fragment on. What stays is put in front of
it as it is written, and the whole is read as a URL.
-/

namespace Enrollment.Url

def origin (u : Url) : List Char :=
  u.scheme ++ ':' :: match u.authority with
    | some a => a.text
    | none => []

/-- The path up to its last slash. -/
def directory (u : Url) : List Char :=
  (u.path.text.reverse.dropWhile (· != '/')).reverse

/-- The text of a URL with another end. -/
def withEnd (base : Url) (s : List Char) : List Char :=
  match s with
  | [] => base.withoutFragment.chars
  | '#' :: _ => base.withoutFragment.chars ++ s
  | '?' :: _ => base.origin ++ base.path.text ++ s
  | c :: _ => base.origin ++ (if isSlash c then [] else base.directory) ++ s

/-- How many slashes of either kind a text starts with. -/
def countSlashes (s : List Char) : Nat :=
  (s.takeWhile isSlash).length

/-- Reads a text from a URL of the web. -/
def join (base : Url) (reference : String) : Except Fault Url :=
  let s := cleaned reference.toList
  match scheme? s with
  | some (scheme, rest) =>
    if scheme = base.scheme ∧ countSlashes rest < 2 then parse (String.ofList (base.withEnd rest))
    else parse reference
  | none =>
    if countSlashes s < 2 then parse (String.ofList (base.withEnd s))
    -- A third slash behind two that lean forward belongs to the host.
    else if s.take 2 = ['/', '/'] ∧ 2 < countSlashes s then .error .emptyHost
    else parse (String.ofList (base.scheme ++ ':' :: s))

end Enrollment.Url
