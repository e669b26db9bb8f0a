import Enrollment.Document.Magnitude
import Enrollment.Instant.Calendar
import Enrollment.Toml.Lexical
/-!
# Numbers and dates of TOML

Integers of 64 bits in four bases, numbers with a point or an exponent, and dates and times. In
documents that are decoded here no field is a date, so a date is kept as a record with one member
that no layout knows.
-/

namespace Enrollment.Toml

open Document (Tree Numeral)
open Text (isDecimal)

/-! ## Numbers -/

/-- Digits with single underscores between them, and what follows them. -/
def readDigits (isDigit : Char → Bool) : Scan (List Char)
  | [] => none
  | c :: rest =>
    if isDigit c then
      match rest with
      | '_' :: next =>
        (readDigits isDigit next).map fun (digits, rest) => (c :: digits, rest)
      | rest =>
        match readDigits isDigit rest with
        | some (digits, rest) => some (c :: digits, rest)
        | none => if (rest.head?.map isDigit).getD false then none else some ([c], rest)
    else none

/-- An integer as a numeral, if it has 64 bits. -/
def integer (negative : Bool) (n : Nat) : Option Tree :=
  if n < Nat.pow 2 63 ∨ (negative ∧ n = Nat.pow 2 63) then
    some (.numeral ⟨negative && n != 0, Text.toDecimal n, none, none⟩)
  else none

/-- An integer in a base behind its mark. -/
def readBased (base : Nat) (s : List Char) : Option (Tree × List Char) := do
  let isDigit (c : Char) : Bool := (Text.ofBase? base Text.hexValue? 0 [c]).isSome
  let (digits, rest) ← readDigits isDigit s
  let n ← Text.ofBase? base Text.hexValue? 0 digits
  let t ← integer false n
  some (t, rest)

/-- Decimal digits that have no zero in front of others. -/
def readWhole (s : List Char) : Option (List Char × List Char) :=
  match readDigits isDecimal s with
  | some ('0' :: _ :: _, _) => none
  | r => r

def readFraction (s : List Char) : Option (Option (List Char) × List Char) :=
  match s with
  | '.' :: rest => (readDigits isDecimal rest).map fun (digits, rest) => (some digits, rest)
  | s => some (none, s)

def readExponent (s : List Char) : Option (Option (Bool × List Char) × List Char) :=
  let signed (s : List Char) :=
    match s with
    | '-' :: rest => (readDigits isDecimal rest).map fun (ds, rest) => (some (true, ds), rest)
    | '+' :: rest => (readDigits isDecimal rest).map fun (ds, rest) => (some (false, ds), rest)
    | s => (readDigits isDecimal s).map fun (ds, rest) => (some (false, ds), rest)
  match s with
  | 'e' :: rest => signed rest
  | 'E' :: rest => signed rest
  | s => some (none, s)

def inexact : Tree :=
  .numeral ⟨false, ['0'], some ['0'], none⟩

/-- A decimal number behind its sign. One too large is refused, and one too far below zero is the
infinity there. -/
def readDecimal (negative : Bool) (s : List Char) : Option (Tree × List Char) :=
  match s with
  | 'i' :: 'n' :: 'f' :: rest => some (inexact, rest)
  | 'n' :: 'a' :: 'n' :: rest => some (inexact, rest)
  | s => do
    let (whole, s) ← readWhole s
    let (fraction, s) ← readFraction s
    let (exponent, s) ← readExponent s
    if fraction.isNone && exponent.isNone then
      let n ← Text.ofDecimal? whole
      let t ← integer negative n
      some (t, s)
    else
      let n : Numeral := ⟨negative, whole, fraction, exponent⟩
      if negative || n.isFinite then some (.numeral n, s) else none

def readNumber (s : List Char) : Option (Tree × List Char) :=
  match s with
  | '+' :: rest => readDecimal false rest
  | '-' :: rest => readDecimal true rest
  | '0' :: 'x' :: rest => readBased 16 rest
  | '0' :: 'o' :: rest => readBased 8 rest
  | '0' :: 'b' :: rest => readBased 2 rest
  | s => readDecimal false s

/-! ## Dates -/

/-- Exactly so many decimal digits. -/
def readFixed (width : Nat) (s : List Char) : Option (Nat × List Char) :=
  let digits := s.take width
  if digits.length = width ∧ digits.all isDecimal then
    (Text.ofDecimal? digits).map fun n => (n, s.drop width)
  else none

def skip (c : Char) (s : List Char) : Option (List Char) :=
  match s with
  | d :: rest => if c = d then some rest else none
  | [] => none

def skipDate (s : List Char) : Option (List Char) := do
  let (year, s) ← readFixed 4 s
  let s ← skip '-' s
  let (month, s) ← readFixed 2 s
  let s ← skip '-' s
  let (day, s) ← readFixed 2 s
  if (⟨year, month, day⟩ : Calendar.Date).isValid then some s else none

def skipTime (s : List Char) : Option (List Char) := do
  let (hour, s) ← readFixed 2 s
  let s ← skip ':' s
  let (minute, s) ← readFixed 2 s
  let s ← skip ':' s
  let (second, s) ← readFixed 2 s
  if hour < 24 ∧ minute < 60 ∧ second ≤ 60 then
    match s with
    | '.' :: rest =>
      match Text.spanDecimal rest with
      | ([], _) => none
      | (_, rest) => some rest
    | s => some s
  else none

def skipOffset (s : List Char) : Option (List Char) :=
  let size (s : List Char) : Option (List Char) := do
    let (hour, s) ← readFixed 2 s
    let s ← skip ':' s
    let (minute, s) ← readFixed 2 s
    if hour < 24 ∧ minute < 60 then some s else none
  match s with
  | 'Z' :: rest => some rest
  | 'z' :: rest => some rest
  | '+' :: rest => size rest
  | '-' :: rest => size rest
  | s => some s

/-- What follows a date and what belongs to it, or a time. -/
def skipDateTime (s : List Char) : Option (List Char) :=
  match skipDate s with
  | none => skipTime s
  | some s =>
    match s with
    | 'T' :: rest => (skipTime rest).bind skipOffset
    | 't' :: rest => (skipTime rest).bind skipOffset
    | ' ' :: rest =>
      match (readFixed 2 rest).isSome with
      | true => (skipTime rest).bind skipOffset
      | false => some s
    | s => some s

def dateTree : Tree :=
  .record [(some "", .text (some ""))] .closed

def readDateOrNumber (s : List Char) : Option (Tree × List Char) :=
  match skipDateTime s with
  | some rest => some (dateTree, rest)
  | none => readNumber s

end Enrollment.Toml
