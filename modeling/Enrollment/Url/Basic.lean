import Enrollment.Text.Digits
import Enrollment.Text.Utf8
/-!
# URLs

The parts of a URL and its one written form.
-/

namespace Enrollment

/-- Why a text is no URL. -/
inductive Url.Fault
  | relativeWithoutBase
  | emptyHost
  | invalidPort
  | invalidIpv4
  | invalidIpv6
  | invalidDomain
  | invalidDomainCharacter
  deriving DecidableEq, Repr

inductive Url.Host
  /-- A name; empty where a URL has an authority without a host. -/
  | name (s : List Char)
  | ipv4 (address : Nat)
  | ipv6 (pieces : List Nat)
  deriving DecidableEq, Repr

/-- Who asks which host. -/
structure Url.Authority where
  username : List Char
  password : List Char
  host : Url.Host
  /-- The port, unless it is the usual one. -/
  port : Option Nat
  deriving DecidableEq, Repr

inductive Url.Path
  | opaqueText (s : List Char)
  | segments (names : List (List Char))
  deriving DecidableEq, Repr

structure Url where
  scheme : List Char
  authority : Option Url.Authority
  path : Url.Path
  query : Option (List Char)
  fragment : Option (List Char)
  deriving DecidableEq, Repr

namespace Url

def Fault.message : Fault → String
  | relativeWithoutBase => "relative URL without a base"
  | emptyHost => "empty host"
  | invalidPort => "invalid port number"
  | invalidIpv4 => "invalid IPv4 address"
  | invalidIpv6 => "invalid IPv6 address"
  | invalidDomain => "invalid international domain name"
  | invalidDomainCharacter => "invalid domain character"

/-! ## Writing -/

def ipv4Text (address : Nat) : List Char :=
  Text.toDecimal (address / 0x1000000 % 0x100) ++ '.' ::
    Text.toDecimal (address / 0x10000 % 0x100) ++ '.' ::
    Text.toDecimal (address / 0x100 % 0x100) ++ '.' :: Text.toDecimal (address % 0x100)

/-- How many pieces in front are zero. -/
def leadingZeros (pieces : List Nat) : Nat :=
  (pieces.takeWhile (· == 0)).length

/-- Where the first of the longest runs of zeros starts, and its length. -/
def longestZeros : Nat → List Nat → Nat × Nat
  | _, [] => (0, 0)
  | position, p :: rest =>
    let here := leadingZeros (p :: rest)
    let (start, length) := longestZeros (position + 1) rest
    if here ≥ length ∧ here ≠ 0 then (position, here) else (start, length)

def piecesText (pieces : List Nat) : List Char :=
  [':'].intercalate (pieces.map Text.toHex)

/-- An address of eight pieces; the longest run of zeros is left out. -/
def ipv6Text (pieces : List Nat) : List Char :=
  let (start, length) := longestZeros 0 pieces
  if length < 2 then piecesText pieces
  else piecesText (pieces.take start) ++ ':' :: ':' :: piecesText (pieces.drop (start + length))

def Host.text : Host → List Char
  | name s => s
  | ipv4 address => ipv4Text address
  | ipv6 pieces => '[' :: ipv6Text pieces ++ [']']

/-- The user and the password in front of a host. -/
def Authority.credentials (a : Authority) : List Char :=
  let password := if a.password.isEmpty then [] else ':' :: a.password
  if a.username.isEmpty && a.password.isEmpty then [] else a.username ++ password ++ ['@']

def Authority.portText (a : Authority) : List Char :=
  match a.port with
  | some port => ':' :: Text.toDecimal port
  | none => []

def Authority.text (a : Authority) : List Char :=
  '/' :: '/' :: a.credentials ++ a.host.text ++ a.portText

def Path.text : Path → List Char
  | opaqueText s => s
  | segments names => names.flatMap fun name => '/' :: name

/-- What keeps a path from being taken for an authority. -/
def pathMark (u : Url) : List Char :=
  match u.authority, u.path.text with
  | none, '/' :: '/' :: _ => ['/', '.']
  | _, _ => []

def tail (u : Url) : List Char :=
  (match u.query with
    | some query => '?' :: query
    | none => []) ++
  match u.fragment with
    | some fragment => '#' :: fragment
    | none => []

def chars (u : Url) : List Char :=
  u.scheme ++ ':' :: (match u.authority with
    | some a => a.text
    | none => []) ++ u.pathMark ++ u.path.text ++ u.tail

/-- The one written form of a URL. -/
def text (u : Url) : String :=
  String.ofList u.chars

def withoutFragment (u : Url) : Url :=
  { u with fragment := none }

def withoutCredentials (u : Url) : Url :=
  { u with authority := u.authority.map fun a => { a with username := [], password := [] } }

def isWeb (u : Url) : Bool :=
  u.scheme == ['h', 't', 't', 'p'] || u.scheme == ['h', 't', 't', 'p', 's']

def isSecure (u : Url) : Bool :=
  u.scheme == ['h', 't', 't', 'p', 's']

end Url

end Enrollment
