import Enrollment.Text.Digits
/-!
# Punycode

Labels with characters beyond ASCII as labels of letters, digits and hyphens: the ASCII characters
first, then for every other character, in the order of code points, how far to go on from the one
before, in digits of base 36 whose weights adapt to the label.
-/

namespace Enrollment.Url.Punycode

/-- The letter or digit of a value below 36. -/
def digitChar (d : Nat) : Char :=
  if d < 26 then Char.ofNat (0x61 + d) else Char.ofNat (0x30 + d - 26)

def digitValue? (c : Char) : Option Nat :=
  let n := c.toNat
  if 0x61 ≤ n ∧ n ≤ 0x7a then some (n - 0x61)
  else if 0x41 ≤ n ∧ n ≤ 0x5a then some (n - 0x41)
  else if 0x30 ≤ n ∧ n ≤ 0x39 then some (n - 0x30 + 26)
  else none

/-- From which value on a digit is not the last one. -/
def threshold (position bias : Nat) : Nat :=
  if position ≤ bias then 1 else if bias + 26 ≤ position then 26 else position - bias

theorem threshold_pos (position bias : Nat) : 1 ≤ threshold position bias := by
  unfold threshold
  split
  · omega
  · split <;> omega

/-- Divides a distance until it is small, counting positions. -/
def shrink (distance position : Nat) : Nat × Nat :=
  if 455 < distance then shrink (distance / 35) (position + 36) else (distance, position)
termination_by distance
decreasing_by exact Nat.div_lt_self (by omega) (by omega)

/-- The bias behind a distance, given how many characters there are then. -/
def adapt (distance count : Nat) (isFirst : Bool) : Nat :=
  let distance := if isFirst then distance / 700 else distance / 2
  let (distance, position) := shrink (distance + distance / count) 0
  position + 36 * distance / (distance + 38)

/-! ## Writing -/

def writeDistance (bias position distance : Nat) : List Char :=
  let t := threshold position bias
  if distance < t then [digitChar distance]
  else digitChar (t + (distance - t) % (36 - t)) ::
    writeDistance bias (position + 36) ((distance - t) / (36 - t))
termination_by distance
decreasing_by
  have h1 := threshold_pos position bias
  have h2 := Nat.div_le_self (distance - threshold position bias)
    (36 - threshold position bias)
  omega

/-- A label as far as it is written. -/
structure Writing where
  digits : List Char
  distance : Nat
  bias : Nat
  count : Nat

/-- Goes past a character of the label while those of one code point are written. -/
def Writing.pass (basic codePoint : Nat) (w : Writing) (c : Char) : Writing :=
  if c.toNat < codePoint then { w with distance := w.distance + 1 }
  else if c.toNat = codePoint then
    { digits := w.digits ++ writeDistance w.bias 36 w.distance
      distance := 0
      bias := adapt w.distance (w.count + 1) (w.count == basic)
      count := w.count + 1 }
  else w

/-- Writes the characters of some code points, which go up. -/
def Writing.passAll (label : List Char) (basic : Nat) : List Nat → Nat → Writing → Writing
  | [], _, w => w
  | codePoint :: rest, reached, w =>
    let w := { w with distance := w.distance + (codePoint - reached) * (w.count + 1) }
    let w := label.foldl (Writing.pass basic codePoint) w
    passAll label basic rest (codePoint + 1) { w with distance := w.distance + 1 }

/-- The label of ASCII characters that stands for a label. -/
def encode (label : List Char) : List Char :=
  let ascii := label.filter fun c => c.toNat < 0x80
  let codePoints := ((label.filter fun c => 0x80 ≤ c.toNat).map Char.toNat).eraseDups.mergeSort
  let start : Writing := ⟨[], 0, 72, ascii.length⟩
  ascii ++ (if ascii.isEmpty then [] else ['-']) ++
    (start.passAll label ascii.length codePoints 0x80).digits

/-! ## Reading -/

/-- A distance and what follows its digits. -/
def readDistance (bias : Nat) : Nat → Nat → Nat → List Char → Option (Nat × List Char)
  | _, _, _, [] => none
  | position, weight, distance, c :: rest =>
    match digitValue? c with
    | none => none
    | some d =>
      let distance := distance + d * weight
      let t := threshold position bias
      if d < t then some (distance, rest)
      else readDistance bias (position + 36) (weight * (36 - t)) distance rest

theorem readDistance_length {bias position weight distance : Nat} {s rest : List Char} {n : Nat}
    (h : readDistance bias position weight distance s = some (n, rest)) :
    rest.length < s.length := by
  induction s generalizing position weight distance with
  | nil => simp [readDistance] at h
  | cons c s ih =>
    simp only [readDistance] at h
    split at h
    · simp at h
    · split at h
      · injection h with h
        injection h with _ h
        simp [← h]
      · have := ih h
        simp only [List.length_cons]
        omega

/-- Puts characters into a label as their distances say, starting from a code point and a
position in the label. -/
def insertAll (codePoint position bias : Nat) (label s : List Char) : Option (List Char) :=
  if s.isEmpty then some label
  else
    match _h : readDistance bias 36 1 0 s with
    | none => none
    | some (distance, rest) =>
      let count := label.length + 1
      let codePoint' := codePoint + (position + distance) / count
      let position' := (position + distance) % count
      if codePoint'.isValidChar then
        insertAll codePoint' (position' + 1) (adapt distance count (position == 0))
          (label.take position' ++ Char.ofNat codePoint' :: label.drop position') rest
      else none
termination_by s.length
decreasing_by exact readDistance_length ‹_›

/-- Splits a text behind its last hyphen; all of it is behind one that is not there, or that is in
front of everything. -/
def splitAtLastHyphen (s : List Char) : List Char × List Char :=
  let behind := (s.reverse.takeWhile (· != '-')).reverse
  if behind.length + 1 < s.length then (s.take (s.length - behind.length - 1), behind)
  else ([], s)

/-- The label that a label of ASCII characters stands for. -/
def decode (s : List Char) : Option (List Char) :=
  let (ascii, digits) := splitAtLastHyphen s
  if ascii.all fun c => c.toNat < 0x80 then insertAll 0x80 0 72 ascii digits else none

end Enrollment.Url.Punycode
