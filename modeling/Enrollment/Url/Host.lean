import Enrollment.Url.Basic
import Enrollment.Url.Domain.Basic
import Enrollment.Url.Percent
/-!
# Hosts

Reading the host of a URL: an address of eight pieces in brackets, an address of four bytes in any
of the notations for it, or a domain name.
-/

namespace Enrollment.Url

open Text (splitAtEach)

/-! ## Addresses of four bytes -/

/-- A numeral of an address: hexadecimal behind `0x`, octal behind `0`, else decimal. Nothing
behind the mark of a base is zero. -/
def ipv4Numeral? (s : List Char) : Option Nat :=
  let inBase (base : Nat) (digits : List Char) : Option Nat :=
    Text.ofBase? base Text.hexValue? 0 digits
  match s with
  | [] => none
  | '0' :: 'x' :: digits => inBase 16 digits
  | '0' :: 'X' :: digits => inBase 16 digits
  | '0' :: c :: digits => inBase 8 (c :: digits)
  | digits => inBase 10 digits

/-- The last part of a name, that in front of a point at its end. -/
def lastPart (name : List Char) : List Char :=
  match (splitAtEach '.' name).reverse with
  | [] :: part :: _ => part
  | part :: _ => part
  | [] => []

/-- Whether a name can only be an address of four bytes. -/
def endsInNumber (name : List Char) : Bool :=
  let part := lastPart name
  (!part.isEmpty && part.all Text.isDecimal) || (ipv4Numeral? part).isSome

/-- The bytes in front of the last number, and what that number stands for. -/
def ipv4OfNumbers? : Nat → Nat → List Nat → Option Nat
  | _, _, [] => none
  | weight, acc, [n] => if n < weight then some (acc + n) else none
  | weight, acc, n :: rest =>
    if n < 0x100 then ipv4OfNumbers? (weight / 0x100) (acc + n * (weight / 0x100)) rest else none

/-- The address of four bytes that a name stands for. -/
def ipv4? (name : List Char) : Option Nat :=
  let parts := match (splitAtEach '.' name).reverse with
    | [] :: rest => rest.reverse
    | rest => rest.reverse
  if parts.length ≤ 4 then
    match parts.mapM ipv4Numeral? with
    | some numbers => ipv4OfNumbers? 0x100000000 0 numbers
    | none => none
  else none

/-! ## Addresses of eight pieces -/

/-- A piece of one to four hexadecimal digits. -/
def piece? (s : List Char) : Option Nat :=
  if s.length ≤ 4 then Text.ofHex? s else none

/-- A byte in decimal, without zeros in front. -/
def decimalByte? (s : List Char) : Option Nat :=
  match s with
  | '0' :: _ :: _ => none
  | s =>
    match Text.ofDecimal? s with
    | some n => if n < 0x100 then some n else none
    | none => none

/-- The two pieces of four bytes with points between them. -/
def dottedPieces? (s : List Char) : Option (List Nat) :=
  match (splitAtEach '.' s).mapM decimalByte? with
  | some [a, b, c, d] => some [a * 0x100 + b, c * 0x100 + d]
  | _ => none

/-- The pieces of parts between colons, of which the last one may be four bytes. -/
def pieces? : List (List Char) → Option (List Nat)
  | [] => some []
  | [part] =>
    match piece? part with
    | some n => some [n]
    | none => dottedPieces? part
  | part :: rest =>
    match piece? part, pieces? rest with
    | some n, some rest => some (n :: rest)
    | _, _ => none

/-- What is in front of the first two colons in a row and what is behind them. -/
def cutAtGap? : List Char → Option (List Char × List Char)
  | [] => none
  | ':' :: ':' :: rest => some ([], rest)
  | c :: rest => (cutAtGap? rest).map fun (before, after) => (c :: before, after)

/-- The parts between colons; none of nothing. -/
def colonParts (s : List Char) : List (List Char) :=
  if s.isEmpty then [] else splitAtEach ':' s

/-- The address of eight pieces that a text stands for. Two colons in a row stand for one or more
pieces that are zero. -/
def ipv6? (s : List Char) : Option (List Nat) :=
  match cutAtGap? s with
  | none =>
    match pieces? (splitAtEach ':' s) with
    | some pieces => if pieces.length = 8 then some pieces else none
    | none => none
  | some (before, after) =>
    match (colonParts before).mapM piece?, pieces? (colonParts after) with
    | some before, some after =>
      if before.length + after.length < 8 then
        some (before ++ List.replicate (8 - before.length - after.length) 0 ++ after)
      else none
    | _, _ => none

/-! ## Any host -/

/-- What no host may hold whose name is not looked up. -/
def isForbiddenInOpaque (c : Char) : Bool :=
  c ∈ ['\x00', '\t', '\n', '\r', ' ', '#', '/', ':', '<', '>', '?', '@', '[', '\\', ']', '^', '|']

def bracketedHost (s : List Char) : Except Fault Host :=
  match s.getLast? with
  | some ']' =>
    match ipv6? s.dropLast with
    | some pieces => .ok (.ipv6 pieces)
    | none => .error .invalidIpv6
  | _ => .error .invalidIpv6

/-- A host whose name is looked up. -/
def webHost (s : List Char) : Except Fault Host :=
  match s with
  | '[' :: rest => bracketedHost rest
  | s =>
    match (Text.decodeUtf8? (Percent.decode (Text.encodeUtf8 s))).bind Domain.toAscii? with
    | none => .error .invalidDomain
    | some [] => .error .emptyHost
    | some name =>
      if endsInNumber name then
        match ipv4? name with
        | some address => .ok (.ipv4 address)
        | none => .error .invalidIpv4
      else .ok (.name name)

/-- A host whose name is not looked up. -/
def opaqueHost (s : List Char) : Except Fault Host :=
  match s with
  | '[' :: rest => bracketedHost rest
  | s =>
    if s.any isForbiddenInOpaque then .error .invalidDomainCharacter
    else .ok (.name (Percent.encode Percent.isControl s))

end Enrollment.Url
