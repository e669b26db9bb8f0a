import Enrollment.Url.Host
/-!
# Reading URLs

A text is cut into scheme, authority, path, query and fragment, and every part is brought into its
one form: letters of scheme and host in lower case, no port that is the usual one, no dots in the
path, and a percent sign and digits for what may not stand in a part.

Main statement: a text without a scheme is no URL (`parse_of_no_scheme`).
-/

namespace Enrollment.Url

open Text (splitAtEach)

/-! ## Cutting -/

/-- Without the blanks and control characters at both ends, and without tabs and line ends. -/
def cleaned (s : List Char) : List Char :=
  let isEdge (c : Char) : Bool := c.toNat ≤ 0x20
  let s := s.dropWhile isEdge
  let s := (s.reverse.dropWhile isEdge).reverse
  s.filter fun c => c != '\t' && c != '\n' && c != '\r'

/-- What is in front of the first character of a kind, and what is behind it, if there is one. -/
def cutAt (mark : Char) (s : List Char) : List Char × Option (List Char) :=
  match s.dropWhile (· != mark) with
  | [] => (s, none)
  | _ :: rest => (s.takeWhile (· != mark), some rest)

/-- What may stand in a scheme behind its first letter. -/
def inScheme (c : Char) : Bool :=
  c.isAlphanum || c == '+' || c == '-' || c == '.'

/-- The scheme in front of the first colon. -/
def scheme? (s : List Char) : Option (List Char × List Char) :=
  match s with
  | c :: _ =>
    match s.dropWhile inScheme with
    | ':' :: rest =>
      if c.isAlpha then some ((s.takeWhile inScheme).map Char.toLower, rest) else none
    | _ => none
  | [] => none

/-- The usual port of a scheme whose URLs name a host that is looked up. -/
def usualPort? (scheme : List Char) : Option Nat :=
  if scheme = ['h', 't', 't', 'p'] then some 80
  else if scheme = ['h', 't', 't', 'p', 's'] then some 443
  else if scheme = ['w', 's'] then some 80
  else if scheme = ['w', 's', 's'] then some 443
  else if scheme = ['f', 't', 'p'] then some 21
  else none

def namesFiles (scheme : List Char) : Bool :=
  scheme = ['f', 'i', 'l', 'e']

def isSlash (c : Char) : Bool :=
  c == '/' || c == '\\'

/-! ## Paths -/

/-- A segment that stands for the one above. -/
def isDoubleDot (segment : List Char) : Bool :=
  String.ofList (segment.map Char.toLower) ∈ ["..", ".%2e", "%2e.", "%2e%2e"]

def isSingleDot (segment : List Char) : Bool :=
  String.ofList (segment.map Char.toLower) ∈ [".", "%2e"]

/-- The letter of a drive, which no segment leads out of. -/
def isDriveLetter (segment : List Char) : Bool :=
  match segment with
  | [c, m] => c.isAlpha && (m == ':' || m == '|')
  | _ => false

/-- Leaves the last segment, kept in front, unless it is the letter of a drive. -/
def leave : List (List Char) → List (List Char)
  | [] => []
  | segment :: rest => if isDriveLetter segment then segment :: rest else rest

/-- Follows segments, given those followed so far, backwards. -/
def follow : List (List Char) → List (List Char) → List (List Char)
  | done, [] => done.reverse
  | done, [segment] =>
    if isDoubleDot segment then ([] :: leave done).reverse
    else if isSingleDot segment then ([] :: done).reverse
    else (segment :: done).reverse
  | done, segment :: rest =>
    if isDoubleDot segment then follow (leave done) rest
    else if isSingleDot segment then follow done rest
    else follow (segment :: done) rest

/-- Splits a text at every slash of either kind. -/
def splitAtSlashes (special : Bool) (s : List Char) : List (List Char) :=
  splitAtEach '/' (if special then s.map fun c => if c == '\\' then '/' else c else s)

/-- The path behind a host, or of a URL without one that starts with a slash. -/
def segmentPath (special : Bool) (s : List Char) : Path :=
  match s with
  | [] => if special then .segments [[]] else .segments []
  | c :: rest =>
    let s := if c == '/' || (special && c == '\\') then rest else s
    .segments (follow [] ((splitAtSlashes special s).map (Percent.encode Percent.inPath)))

/-- The path of a file: no empty segments in front, and a colon behind the letter of a drive. -/
def filePath (s : List Char) : Path :=
  match segmentPath true s with
  | .segments names =>
    let names := names.map fun name =>
      match name with
      | [c, '|'] => if c.isAlpha then [c, ':'] else name
      | _ => name
    match names.dropWhile List.isEmpty with
    | [] => .segments [[]]
    | names => .segments names
  | path => path

/-! ## Authorities -/

/-- What is in front of the last at sign, if there is one, and what is behind it. -/
def cutCredentials (s : List Char) : Option (List Char) × List Char :=
  let behind := (s.reverse.takeWhile (· != '@')).reverse
  if behind.length < s.length then (some (s.take (s.length - behind.length - 1)), behind)
  else (none, s)

/-- The host in front of the first colon that is not between brackets, and the rest. -/
def cutHost (inside : Bool) : List Char → List Char × List Char
  | [] => ([], [])
  | c :: rest =>
    if c == ':' && !inside then ([], c :: rest)
    else
      let (host, rest) := cutHost (if c == '[' then true else if c == ']' then false else inside) rest
      (c :: host, rest)

/-- The port behind a host, and what follows it in an authority that is cut later. -/
def readPort (usual : Option Nat) (s : List Char) : Except Fault (Option Nat × List Char) :=
  match s with
  | ':' :: rest =>
    let (digits, rest) := Text.spanDecimal rest
    if !rest.isEmpty && rest.head? != some '\\' then .error .invalidPort
    else
      match Text.ofDecimal? digits with
      | none => .ok (none, rest)
      | some port =>
        if port < 0x10000 then .ok (if usual = some port then none else some port, rest)
        else .error .invalidPort
  | s => .ok (none, s)

/-- Reads an authority; what is left of it belongs to the path. -/
def readAuthority (usual : Option Nat) (alone : Bool) (s : List Char) :
    Except Fault (Authority × List Char) := do
  let special := usual.isSome
  let (credentials, s) := cutCredentials s
  if credentials = some [] ∧ s.isEmpty ∧ !alone then throw .emptyHost
  let (username, password) := cutAt ':' (credentials.getD [])
  let username := Percent.encode Percent.inCredentials username
  let password := Percent.encode Percent.inCredentials (password.getD [])
  let (host, s) := cutHost false s
  if special && host.isEmpty then throw .emptyHost
  let host ← if special then webHost host else opaqueHost host
  if host = .name [] ∧ (s.head? = some ':' ∨ !username.isEmpty ∨ !password.isEmpty) then
    throw .emptyHost
  let (port, s) ← readPort usual s
  return (⟨username, password, host, port⟩, s)

def readFileHost (s : List Char) : Except Fault (Authority × List Char) := do
  let host := s.takeWhile fun c => !isSlash c
  let path := s.dropWhile fun c => !isSlash c
  if isDriveLetter host then return (⟨[], [], .name [], none⟩, s)
  else if host.isEmpty then return (⟨[], [], .name [], none⟩, path)
  else
    let host ← webHost host
    let host := if host = .name "localhost".toList then .name [] else host
    return (⟨[], [], host, none⟩, path)

/-! ## URLs -/

/-- What a scheme is followed by, without query and fragment. -/
def readHierarchy (scheme s : List Char) (alone : Bool) :
    Except Fault (Option Authority × Path) := do
  if namesFiles scheme then
    match s with
    | a :: b :: rest =>
      if isSlash a && isSlash b then
        let (authority, path) ← readFileHost rest
        return (some authority, filePath path)
      else return (some ⟨[], [], .name [], none⟩, filePath s)
    | s => return (some ⟨[], [], .name [], none⟩, filePath s)
  else if (usualPort? scheme).isSome then
    let s := s.dropWhile isSlash
    let (authority, rest) ← readAuthority (usualPort? scheme)
      (alone && !s.any isSlash) (s.takeWhile fun c => !isSlash c)
    return (some authority, segmentPath true (rest ++ s.dropWhile fun c => !isSlash c))
  else
    match s with
    | '/' :: '/' :: s =>
      let (authority, rest) ← readAuthority none (alone && !s.contains '/')
        (s.takeWhile (· != '/'))
      return (some authority, segmentPath false (rest ++ s.dropWhile (· != '/')))
    | '/' :: _ => return (none, segmentPath false s)
    | s => return (none, .opaqueText (Percent.encode Percent.isControl s))

def parse (s : String) : Except Fault Url := do
  match scheme? (cleaned s.toList) with
  | none => throw .relativeWithoutBase
  | some (scheme, rest) =>
    let (rest, fragment) := cutAt '#' rest
    let (rest, query) := cutAt '?' rest
    let (authority, path) ← readHierarchy scheme rest (fragment.isNone && query.isNone)
    let special := (usualPort? scheme).isSome || namesFiles scheme
    return {
      scheme, authority, path
      query := query.map (Percent.encode (Percent.inQuery special))
      fragment := fragment.map (Percent.encode Percent.inFragment) }

theorem parse_of_no_scheme {s : String} (h : scheme? (cleaned s.toList) = none) :
    parse s = .error .relativeWithoutBase := by
  simp only [parse, h]
  rfl

end Enrollment.Url
