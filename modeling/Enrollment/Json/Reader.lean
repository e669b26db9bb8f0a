import Enrollment.Document.Codec
/-!
# Reading JSON

A text is read as far as it is well-formed. What was read up to a syntax error is kept, because a
fault in front of it is to be reported first; what follows it is not looked at.

Main statement: what is decoded is what a whole document is read as (`decode_eq_ok_iff`).
-/

namespace Enrollment.Json

open Document (Tree Numeral Ending Codec Fault)
open Text (isDecimal spanDecimal hexValue?)

/-- The four characters that may stand between the parts of a document. -/
def isSpace (c : Char) : Bool :=
  c == ' ' || c == '\n' || c == '\t' || c == '\r'

/-- What follows the blanks in front. -/
def skipSpace (s : List Char) : List Char :=
  s.dropWhile isSpace

/-! ## Texts -/

/-- The code unit of four hexadecimal digits. -/
def codeUnit? (a b c d : Char) : Option Nat :=
  match hexValue? a, hexValue? b, hexValue? c, hexValue? d with
  | some a, some b, some c, some d => some (((a * 16 + b) * 16 + c) * 16 + d)
  | _, _, _, _ => none

/-- The character that a letter behind a backslash stands for. -/
def characterOf? (letter : Char) : Option Char :=
  match letter with
  | '"' => some '"'
  | '\\' => some '\\'
  | '/' => some '/'
  | 'b' => some '\x08'
  | 'f' => some '\x0c'
  | 'n' => some '\n'
  | 'r' => some '\r'
  | 't' => some '\t'
  | _ => none

/-- A code unit that is the first half of a pair. -/
def isLeading (unit : Nat) : Bool :=
  0xd800 ≤ unit && unit < 0xdc00

/-- A code unit that is the second half of a pair. -/
def isTrailing (unit : Nat) : Bool :=
  0xdc00 ≤ unit && unit < 0xe000

/-- The character of a pair of code units. -/
def ofPair (leading trailing : Nat) : Char :=
  Char.ofNat (0x10000 + (leading - 0xd800) * 0x400 + (trailing - 0xdc00))

abbrev TextRead := Option (Option (List Char) × List Char)

/-- Puts a character in front of a text; half of a pair alone makes it one without characters. -/
def TextRead.cons (c : Option Char) (r : TextRead) : TextRead :=
  r.map fun (cs, rest) => (c.bind fun c => cs.map (c :: ·), rest)

/-- Reads a text behind its opening quote. -/
def readText : List Char → TextRead
  | [] => none
  | '"' :: rest => some (some [], rest)
  | '\\' :: 'u' :: a :: b :: c :: d :: '\\' :: 'u' :: e :: f :: g :: h :: rest =>
    match codeUnit? a b c d, codeUnit? e f g h with
    | some leading, some trailing =>
      if isLeading leading && isTrailing trailing then
        TextRead.cons (some (ofPair leading trailing)) (readText rest)
      else
        TextRead.cons (if isLeading leading || isTrailing leading then none else
          some (Char.ofNat leading)) (readText ('\\' :: 'u' :: e :: f :: g :: h :: rest))
    | _, _ => none
  | '\\' :: 'u' :: a :: b :: c :: d :: rest =>
    match codeUnit? a b c d with
    | some unit =>
      TextRead.cons (if isLeading unit || isTrailing unit then none else some (Char.ofNat unit))
        (readText rest)
    | none => none
  | '\\' :: letter :: rest =>
    match characterOf? letter with
    | some c => TextRead.cons (some c) (readText rest)
    | none => none
  | c :: rest => if c.toNat < 0x20 ∨ c = '\\' then none else TextRead.cons (some c) (readText rest)

/-! ## Numerals -/

def readDigits (s : List Char) : Option (List Char × List Char) :=
  match spanDecimal s with
  | ([], _) => none
  | (digits, rest) => some (digits, rest)

/-- The digits in front of the point: a zero alone, or digits of which the first is not zero. -/
def readWhole (s : List Char) : Option (List Char × List Char) :=
  match readDigits s with
  | some ('0' :: _ :: _, _) => none
  | r => r

def readFraction (s : List Char) : Option (Option (List Char) × List Char) :=
  match s with
  | '.' :: rest => (readDigits rest).map fun (digits, rest) => (some digits, rest)
  | s => some (none, s)

/-- The sign and the digits of an exponent behind its letter. -/
def readSigned (s : List Char) : Option (Option (Bool × List Char) × List Char) :=
  match s with
  | '-' :: rest => (readDigits rest).map fun (digits, rest) => (some (true, digits), rest)
  | '+' :: rest => (readDigits rest).map fun (digits, rest) => (some (false, digits), rest)
  | s => (readDigits s).map fun (digits, rest) => (some (false, digits), rest)

def readExponent (s : List Char) : Option (Option (Bool × List Char) × List Char) :=
  match s with
  | 'e' :: rest => readSigned rest
  | 'E' :: rest => readSigned rest
  | s => some (none, s)

def readUnsigned (negative : Bool) (s : List Char) : Option (Numeral × List Char) := do
  let (whole, s) ← readWhole s
  let (fraction, s) ← readFraction s
  let (exponent, s) ← readExponent s
  some (⟨negative, whole, fraction, exponent⟩, s)

def readNumeral (s : List Char) : Option (Numeral × List Char) :=
  match s with
  | '-' :: rest => readUnsigned true rest
  | s => readUnsigned false s

/-! ## Values -/

/-- Whether reading came to the end of a list or a record. -/
def endingOf : Option (List Char) → Ending
  | some _ => .closed
  | none => .broken

/-- A value that is neither a text nor made of others. -/
def readScalar (s : List Char) : Tree × Option (List Char) :=
  match s with
  | 'n' :: 'u' :: 'l' :: 'l' :: rest => (.null, some rest)
  | 't' :: 'r' :: 'u' :: 'e' :: rest => (.boolean true, some rest)
  | 'f' :: 'a' :: 'l' :: 's' :: 'e' :: rest => (.boolean false, some rest)
  | s =>
    match readNumeral s with
    | some (n, rest) => (.numeral n, some rest)
    | none => (.broken, none)

mutual

/-- Reads a value; the bound is on the steps, each of which takes a character. Nothing follows a
value that is broken. -/
def readValue : Nat → List Char → Tree × Option (List Char)
  | 0, _ => (.broken, none)
  | bound + 1, s =>
    match skipSpace s with
    | '"' :: rest =>
      match readText rest with
      | some (cs, rest) => (.text (cs.map String.ofList), some rest)
      | none => (.broken, none)
    | '[' :: rest =>
      match skipSpace rest with
      | ']' :: rest => (.list [] .closed, some rest)
      | _ =>
        let (items, after) := readItems bound rest
        (.list items (endingOf after), after)
    | '\x7b' :: rest =>
      match skipSpace rest with
      | '\x7d' :: rest => (.record [] .closed, some rest)
      | _ =>
        let (members, after) := readMembers bound rest
        (.record members (endingOf after), after)
    | s => readScalar s

/-- Reads one or more items and the bracket behind them. -/
def readItems : Nat → List Char → List Tree × Option (List Char)
  | 0, _ => ([], none)
  | bound + 1, s =>
    match readValue bound s with
    | (t, none) => ([t], none)
    | (t, some rest) =>
      match skipSpace rest with
      | ',' :: rest =>
        let (items, after) := readItems bound rest
        (t :: items, after)
      | ']' :: rest => ([t], some rest)
      | _ => ([t], none)

/-- Reads one or more members and the brace behind them. -/
def readMembers : Nat → List Char → List (Option String × Tree) × Option (List Char)
  | 0, _ => ([], none)
  | bound + 1, s =>
    match skipSpace s with
    | '"' :: rest =>
      match readText rest with
      | none => ([], none)
      | some (cs, rest) =>
        let key := cs.map String.ofList
        match skipSpace rest with
        | ':' :: rest =>
          match readValue bound rest with
          | (t, none) => ([(key, t)], none)
          | (t, some rest) =>
            match skipSpace rest with
            | ',' :: rest =>
              let (members, after) := readMembers bound rest
              ((key, t) :: members, after)
            | '\x7d' :: rest => ([(key, t)], some rest)
            | _ => ([(key, t)], none)
        | _ => ([(key, .broken)], none)
    | _ => ([], none)

end

/-- What a reader sees of a text, and whether nothing but blanks follows the value in it. -/
def read (s : String) : Tree × Bool :=
  let cs := s.toList
  match readValue (cs.length + 1) cs with
  | (t, some rest) => (t, rest.all isSpace)
  | (t, none) => (t, false)

def decode {α : Type} (c : Codec α) (s : String) : Except Fault α := do
  let (t, atEnd) := read s
  let a ← c.decode .json t
  if atEnd then .ok a else .error .malformed

/-- What is decoded is what a whole document is read as. -/
theorem decode_eq_ok_iff {α : Type} {c : Codec α} {s : String} {a : α} :
    decode c s = .ok a ↔ (read s).2 = true ∧ c.decode .json (read s).1 = .ok a := by
  unfold decode
  obtain ⟨t, atEnd⟩ := read s
  show (c.decode .json t >>= fun a => if atEnd = true then .ok a else .error .malformed) = .ok a ↔
    atEnd = true ∧ c.decode .json t = .ok a
  cases c.decode .json t with
  | error fault => exact ⟨nofun, nofun⟩
  | ok b =>
    cases atEnd with
    | true => exact ⟨fun h => ⟨rfl, h⟩, fun h => h.2⟩
    | false => exact ⟨nofun, nofun⟩

end Enrollment.Json
