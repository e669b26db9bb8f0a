/-!
# Digits

Naturals in decimal and hexadecimal, read from and written to lists of characters.

Main statement: a written natural reads back (`ofDecimal?_toDecimal`).
-/

namespace Enrollment.Text

/-- The value of an ASCII decimal digit. -/
def decimalValue? (c : Char) : Option Nat :=
  if '0' ≤ c ∧ c ≤ '9' then some (c.toNat - 48) else none

/-- The value of an ASCII hexadecimal digit of either case. -/
def hexValue? (c : Char) : Option Nat :=
  if '0' ≤ c ∧ c ≤ '9' then some (c.toNat - 48)
  else if 'a' ≤ c ∧ c ≤ 'f' then some (c.toNat - 87)
  else if 'A' ≤ c ∧ c ≤ 'F' then some (c.toNat - 55)
  else none

def isDecimal (c : Char) : Bool :=
  (decimalValue? c).isSome

/-- The lower-case digit of a value below 36. -/
def digit (n : Nat) : Char :=
  if n < 10 then Char.ofNat (48 + n) else Char.ofNat (87 + n)

/-- The upper-case hexadecimal digit of a value below 16. -/
def upperDigit (n : Nat) : Char :=
  if n < 10 then Char.ofNat (48 + n) else Char.ofNat (55 + n)

/-- The digits of a natural in a base of at least two, most significant first. The natural itself is a
bound on how many there are behind the first. -/
def toBaseUpTo (base : Nat) : Nat → Nat → List Char
  | 0, n => [digit n]
  | bound + 1, n =>
    if n < base ∨ base < 2 then [digit n]
    else toBaseUpTo base bound (n / base) ++ [digit (n % base)]

def toBase (base n : Nat) : List Char :=
  toBaseUpTo base n n

def toDecimal (n : Nat) : List Char :=
  toBase 10 n

/-- A natural in decimal, filled up with zeros in front to at least `width` digits. -/
def toDecimalPadded (width n : Nat) : List Char :=
  List.replicate (width - (toDecimal n).length) '0' ++ toDecimal n

/-- A natural in lower-case hexadecimal. -/
def toHex (n : Nat) : List Char :=
  toBase 16 n

/-- A natural in decimal, as a text. -/
def decimal (n : Nat) : String :=
  String.ofList (toDecimal n)

/-- The value of a list of digits in a base, most significant first; none if one of the characters
is no digit of that base. -/
def ofBase? (base : Nat) (value? : Char → Option Nat) : Nat → List Char → Option Nat
  | acc, [] => some acc
  | acc, c :: rest =>
    match value? c with
    | some v => if v < base then ofBase? base value? (acc * base + v) rest else none
    | none => none

/-- The value of a non-empty list of decimal digits. -/
def ofDecimal? (s : List Char) : Option Nat :=
  if s.isEmpty then none else ofBase? 10 decimalValue? 0 s

/-- The value of a non-empty list of hexadecimal digits. -/
def ofHex? (s : List Char) : Option Nat :=
  if s.isEmpty then none else ofBase? 16 hexValue? 0 s

/-- Splits a list of characters behind its leading decimal digits. -/
def spanDecimal (s : List Char) : List Char × List Char :=
  (s.takeWhile isDecimal, s.dropWhile isDecimal)

theorem spanDecimal_append (s : List Char) : (spanDecimal s).1 ++ (spanDecimal s).2 = s :=
  List.takeWhile_append_dropWhile

theorem decimalValue?_digit {n : Nat} (h : n < 10) : decimalValue? (digit n) = some n := by
  have : ∀ n < 10, decimalValue? (digit n) = some n := by decide
  exact this n h

theorem hexValue?_digit {n : Nat} (h : n < 16) : hexValue? (digit n) = some n := by
  have : ∀ n < 16, hexValue? (digit n) = some n := by decide
  exact this n h

theorem ofBase?_append (base : Nat) (value? : Char → Option Nat) (acc : Nat) (s t : List Char) :
    ofBase? base value? acc (s ++ t) =
      (ofBase? base value? acc s).bind fun acc => ofBase? base value? acc t := by
  induction s generalizing acc with
  | nil => rfl
  | cons c s ih =>
    simp only [List.cons_append, ofBase?]
    split
    · split
      · exact ih _
      · rfl
    · rfl

theorem toBaseUpTo_eq {base bound bound' n : Nat} (h : n ≤ bound) (h' : n ≤ bound') :
    toBaseUpTo base bound n = toBaseUpTo base bound' n := by
  have hzero : ∀ bound, toBaseUpTo base bound 0 = [digit 0] := by
    intro bound
    cases bound with
    | zero => rfl
    | succ bound => exact if_pos (by omega)
  induction bound generalizing bound' n with
  | zero =>
    obtain rfl := Nat.le_zero.1 h
    rw [hzero, hzero]
  | succ bound ih =>
    cases bound' with
    | zero =>
      obtain rfl := Nat.le_zero.1 h'
      rw [hzero, hzero]
    | succ bound' =>
      unfold toBaseUpTo
      split
      · rfl
      · have hless : n / base < n := Nat.div_lt_self (by omega) (by omega)
        have hsame : toBaseUpTo base bound (n / base) = toBaseUpTo base bound' (n / base) :=
          ih (by omega) (by omega)
        rw [hsame]

theorem toBase_eq (base n : Nat) :
    toBase base n =
      if n < base ∨ base < 2 then [digit n] else toBase base (n / base) ++ [digit (n % base)] := by
  cases n with
  | zero => exact (if_pos (by omega)).symm
  | succ n =>
    show toBaseUpTo base (n + 1) (n + 1) = _
    rw [toBaseUpTo]
    split
    · rfl
    · have hless : (n + 1) / base < n + 1 := Nat.div_lt_self (by omega) (by omega)
      rw [toBase, toBaseUpTo_eq (Nat.le_of_lt_succ hless) (Nat.le_refl _)]

theorem toBase_ne_nil (base n : Nat) : toBase base n ≠ [] := by
  rw [toBase_eq]
  split <;> simp

theorem isDecimal_of_mem_toDecimal {n : Nat} {c : Char} (h : c ∈ toDecimal n) :
    isDecimal c = true := by
  unfold toDecimal at h
  induction n using Nat.strongRecOn with
  | ind n ih =>
    have hdigit : ∀ k < 10, isDecimal (digit k) = true := by
      intro k hk
      simp [isDecimal, decimalValue?_digit hk]
    rw [toBase_eq] at h
    split at h
    · simp only [List.mem_singleton] at h
      exact h ▸ hdigit n (by omega)
    · rw [List.mem_append, List.mem_singleton] at h
      rcases h with h | rfl
      · exact ih (n / 10) (by omega) h
      · exact hdigit _ (by omega)

theorem ofBase?_toBase {base : Nat} {value? : Char → Option Nat} (hbase : 2 ≤ base)
    (hvalue : ∀ n < base, value? (digit n) = some n) (n : Nat) :
    ofBase? base value? 0 (toBase base n) = some n := by
  induction n using Nat.strongRecOn with
  | ind n ih =>
    rw [toBase_eq]
    split
    · next h =>
      have hn : n < base := by omega
      simp [ofBase?, hvalue n hn, hn]
    · next h =>
      have hn : base ≤ n := by omega
      have hlt : n / base < n := Nat.div_lt_self (by omega) (by omega)
      have hmod : n % base < base := Nat.mod_lt _ (by omega)
      rw [ofBase?_append, ih _ hlt]
      simp only [Option.bind_some, ofBase?, hvalue _ hmod, hmod, ↓reduceIte, Option.some.injEq]
      rw [Nat.mul_comm]
      exact Nat.div_add_mod n base

theorem ofDecimal?_toDecimal (n : Nat) : ofDecimal? (toDecimal n) = some n := by
  have h : (toDecimal n).isEmpty = false := by
    simpa [toDecimal] using toBase_ne_nil 10 n
  simp only [ofDecimal?, h]
  exact ofBase?_toBase (by omega) (fun n h => decimalValue?_digit h) n

end Enrollment.Text
