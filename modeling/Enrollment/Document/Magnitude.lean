import Enrollment.Document.Tree
import Enrollment.Text.Digits
/-!
# How large a numeral may be

Whether the number that a numeral stands for is too large for a double. A reader that is exact
compares the number itself with the bound from which numbers are rounded to infinity. A reader in a
hurry rounds the leading digits and the power of ten behind them to the precision of a double, and
compares their product.
-/

namespace Enrollment.Document

/-- The largest natural of 64 bits. -/
def wordLimit : Nat := UInt64.size - 1

/-- The first digits of a numeral as far as they fit a word, and how many more there are. -/
def leadingDigits : Nat → Nat → List Char → Nat × Nat
  | n, more, [] => (n, more)
  | n, more, c :: rest =>
    let longer := n * 10 + (Text.decimalValue? c).getD 0
    if more = 0 ∧ longer ≤ wordLimit then leadingDigits longer 0 rest
    else leadingDigits n (more + 1) rest

/-- A natural rounded to 53 bits, half to even. -/
def toPrecision (n : Nat) : Nat :=
  let unit := Nat.pow 2 (Nat.log2 n - 52)
  let low := n % unit
  let high := n / unit
  if 2 * low > unit ∨ (2 * low = unit ∧ high % 2 = 1) then (high + 1) * unit else high * unit

/-- The bound from which numbers are rounded to infinity. -/
def infinityBound : Nat := Nat.pow 2 1024 - Nat.pow 2 970

/-- Whether a natural times a power of ten is too large. -/
def isTooLarge (digits exponent : Nat) : Bool :=
  digits != 0 && (exponent > 308 ||
    toPrecision digits * toPrecision (Nat.pow 10 exponent) ≥ infinityBound)

def Numeral.writtenExponent (n : Numeral) : Int :=
  match n.exponent with
  | none => 0
  | some (negative, e) =>
    let e : Nat := (Text.ofDecimal? e).getD 0
    if negative then -(e : Int) else e

/-- Whether a reader in a hurry holds the number that a numeral stands for. -/
def Numeral.isHeld (n : Numeral) : Bool :=
  let (digits, more) := leadingDigits 0 0 n.whole
  let (digits, places) :=
    match n.fraction with
    | none => (digits, 0)
    | some fraction =>
      if more = 0 then
        let (digits, dropped) := leadingDigits digits 0 fraction
        (digits, fraction.length - dropped)
      else (digits, 0)
  let exponent := n.writtenExponent + more - places
  exponent < 0 || !isTooLarge digits exponent.toNat

/-- Whether the number that a numeral stands for is exactly below the bound. How many digits there
are in front of the point decides it for all but a few exponents. -/
def Numeral.isFinite (n : Numeral) : Bool :=
  let fraction := n.fraction.getD []
  let digits := (Text.ofDecimal? (n.whole ++ fraction)).getD 0
  let exponent := n.writtenExponent - fraction.length
  let size := (Text.toDecimal digits).length + exponent
  digits == 0 || size ≤ 308 ||
    (size ≤ 309 &&
      digits * Nat.pow 10 exponent.toNat < infinityBound * Nat.pow 10 (-exponent).toNat)

end Enrollment.Document
