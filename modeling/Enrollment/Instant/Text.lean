import Enrollment.Instant.Basic
import Enrollment.Text.Blank
import Enrollment.Text.Digits
/-!
# Instants as text

Writing an instant in the two forms in which it is shown, and reading it back. What is written is
the shortest of zero, three, six or nine digits of a fraction that loses nothing. What is read is
looser: a date and a time with blanks in front of numbers and separators, fewer digits, a sign
before the year, and any offset of less than a day.
-/

namespace Enrollment.Instant

open Text (isBlank trimStart decimalValue? isDecimal spanDecimal toDecimalPadded)

/-! ## Writing -/

/-- A year: four digits, or a sign and at least four digits where four do not do. -/
def yearText (year : Int) : List Char :=
  if 0 ≤ year ∧ year ≤ 9999 then toDecimalPadded 4 year.toNat
  else (if year < 0 then '-' else '+') :: toDecimalPadded 4 year.natAbs

/-- The digits of a fraction of a second behind its point; nothing for zero. -/
def fractionText (nano : Nat) : List Char :=
  if nano = 0 then []
  else if nano % 1000000 = 0 then '.' :: toDecimalPadded 3 (nano / 1000000)
  else if nano % 1000 = 0 then '.' :: toDecimalPadded 6 (nano / 1000)
  else '.' :: toDecimalPadded 9 nano

def dateText (t : Instant) : List Char :=
  let d := Calendar.dateOf t.day
  yearText d.year ++ '-' :: toDecimalPadded 2 d.month ++ '-' :: toDecimalPadded 2 d.day

/-- The time of day of an instant; a leap second is the sixtieth of its minute. -/
def timeText (t : Instant) : List Char :=
  let second := t.second % 60 + if t.isLeap then 1 else 0
  let nano := if t.isLeap then t.nano - 1000000000 else t.nano
  toDecimalPadded 2 (t.second / 3600) ++ ':' :: toDecimalPadded 2 (t.second / 60 % 60) ++
    ':' :: toDecimalPadded 2 second ++ fractionText nano

/-- The form in which an instant is stored and sent. -/
def text (t : Instant) : String :=
  String.ofList (t.dateText ++ 'T' :: t.timeText ++ ['Z'])

/-- The form in which an instant is shown to people. -/
def shown (t : Instant) : String :=
  String.ofList (t.dateText ++ ' ' :: t.timeText ++ [' ', 'U', 'T', 'C'])

instance : ToString Instant := ⟨shown⟩

/-! ## Reading -/

/-- A piece read from the front of a text, and what follows it. -/
abbrev Scan (α : Type) := List Char → Option (α × List Char)

def scanNumber (width : Nat) : Scan Nat := fun s =>
  let digits := (s.takeWhile isDecimal).take width
  match Text.ofDecimal? digits with
  | some n => some (n, s.drop digits.length)
  | none => none

/-- One to `width` decimal digits behind blanks. -/
def scanPadded (width : Nat) : Scan Nat := fun s =>
  scanNumber width (trimStart s)

/-- A year: up to four digits, or a sign and any number of digits. -/
def scanYear : Scan Int := fun s =>
  match trimStart s with
  | '-' :: rest => (scanNumber rest.length rest).map fun (n, rest) => (-(n : Int), rest)
  | '+' :: rest => (scanNumber rest.length rest).map fun (n, rest) => ((n : Int), rest)
  | s => (scanNumber 4 s).map fun (n, rest) => ((n : Int), rest)

def scanSeparator (separator : Char) (s : List Char) : Option (List Char) :=
  match trimStart s with
  | c :: rest => if c = separator then some rest else none
  | [] => none

/-- A date on the calendar, as days since the first of January 1970. -/
def scanDate : Scan Int := fun s => do
  let (year, s) ← scanYear s
  let s ← scanSeparator '-' s
  let (month, s) ← scanPadded 2 s
  let s ← scanSeparator '-' s
  let (day, s) ← scanPadded 2 s
  let date : Calendar.Date := ⟨year, month, day⟩
  if date.isValid ∧ Calendar.firstYear ≤ year ∧ year ≤ Calendar.lastYear then
    some (Calendar.dayNumber date, s)
  else none

/-- A fraction of a second in nanoseconds; of its digits the first nine count. -/
def scanFraction : Scan Nat := fun s =>
  match s with
  | '.' :: rest =>
    let (digits, rest) := spanDecimal rest
    let kept := digits.take 9
    (Text.ofDecimal? kept).map fun n => (n * Nat.pow 10 (9 - kept.length), rest)
  | s => some (0, s)

/-- A time of day: seconds since midnight and nanoseconds. The sixtieth second of a minute is a
leap second. -/
def scanTime : Scan (Nat × Nat) := fun s => do
  let (hour, s) ← scanPadded 2 s
  let s ← scanSeparator ':' s
  let (minute, s) ← scanPadded 2 s
  let s ← scanSeparator ':' s
  let (second, s) ← scanPadded 2 s
  let (nano, s) ← scanFraction s
  if hour < 24 ∧ minute < 60 ∧ second < 60 then
    some ((hour * 3600 + minute * 60 + second, nano), s)
  else if hour < 24 ∧ minute < 60 ∧ second = 60 then
    some ((hour * 3600 + minute * 60 + 59, nano + 1000000000), s)
  else none

def scanTwoDigits : Scan Nat := fun s =>
  match s with
  | a :: b :: rest =>
    match decimalValue? a, decimalValue? b with
    | some a, some b => some (a * 10 + b, rest)
    | _, _ => none
  | _ => none

/-- Hours and minutes of an offset, in seconds. -/
def scanOffsetSize : Scan Nat := fun s => do
  let (hours, s) ← scanTwoDigits s
  let (minutes, s) ← scanTwoDigits (s.dropWhile fun c => c = ':' || isBlank c)
  if hours < 24 ∧ minutes < 60 then some (hours * 3600 + minutes * 60, s) else none

/-- An offset to UTC in seconds: a name of UTC, or a sign, hours and minutes. -/
def scanOffset : Scan Int := fun s =>
  match s with
  | 'Z' :: rest => some (0, rest)
  | 'z' :: rest => some (0, rest)
  | '+' :: rest => (scanOffsetSize rest).map fun (n, rest) => ((n : Int), rest)
  | '-' :: rest => (scanOffsetSize rest).map fun (n, rest) => (-(n : Int), rest)
  | '\u2212' :: rest => (scanOffsetSize rest).map fun (n, rest) => (-(n : Int), rest)
  | a :: b :: c :: rest =>
    if [a, b, c].map Char.toUpper = ['U', 'T', 'C'] then some (0, rest) else none
  | _ => none

def parse? (s : String) : Option Instant := do
  let (day, rest) ← scanDate s.toList
  let rest ← match rest with
    | 'T' :: rest => some rest
    | 't' :: rest => some rest
    | ' ' :: rest => some rest
    | _ => none
  let ((second, nano), rest) ← scanTime rest
  let (offset, rest) ← scanOffset (trimStart rest)
  if rest.all isBlank then
    let count := day * 86400 + second - offset
    ofParts? (count / 86400) (count % 86400).toNat nano
  else none

end Enrollment.Instant
