import Enrollment.Text.Digits
import Enrollment.Text.Utf8
/-!
# Percent encoding

What may not stand in a part of a URL is written byte by byte, as a percent sign and two
hexadecimal digits.

Main statement: a text without any such character is its own encoded form (`encode_of_plain`).
-/

namespace Enrollment.Url.Percent

/-- A percent sign and the two digits of a byte. -/
def encodeByte (b : UInt8) : List Char :=
  ['%', Text.upperDigit (b.toNat / 16), Text.upperDigit (b.toNat % 16)]

/-- A text in which the characters of a set are encoded. -/
def encode (encoded : Char → Bool) (s : List Char) : List Char :=
  s.flatMap fun c => if encoded c then (Text.encodeChar c).flatMap encodeByte else [c]

/-- The bytes of a text; a percent sign without two digits stands for itself. -/
def decode : Text.Bytes → Text.Bytes
  | [] => []
  | p :: a :: b :: rest =>
    match Text.hexValue? (Char.ofNat a.toNat), Text.hexValue? (Char.ofNat b.toNat) with
    | some high, some low =>
      if p = 0x25 then (high * 16 + low).toUInt8 :: decode rest else p :: decode (a :: b :: rest)
    | _, _ => p :: decode (a :: b :: rest)
  | p :: rest => p :: decode rest

/-- Control characters and all that is not ASCII. -/
def isControl (c : Char) : Bool :=
  c.toNat < 0x20 || 0x7f ≤ c.toNat

def inFragment (c : Char) : Bool :=
  isControl c || c ∈ [' ', '"', '<', '>', '\x60']

def inPath (c : Char) : Bool :=
  inFragment c || c ∈ ['#', '?', '\x7b', '\x7d']

/-- What is encoded in the name of a user and in a password. -/
def inCredentials (c : Char) : Bool :=
  inPath c || c ∈ ['/', ':', ';', '=', '@', '[', '\\', ']', '^', '|']

/-- What is encoded in a query; the schemes with a path of segments have one character more. -/
def inQuery (special : Bool) (c : Char) : Bool :=
  isControl c || c ∈ [' ', '"', '#', '<', '>'] || (special && c == '\'')

theorem encode_of_plain {encoded : Char → Bool} {s : List Char}
    (h : ∀ c ∈ s, encoded c = false) : encode encoded s = s := by
  induction s with
  | nil => rfl
  | cons c s ih =>
    have ih := ih fun d hd => h d (List.mem_cons_of_mem c hd)
    simp only [encode, List.flatMap_cons] at ih ⊢
    simp [h c List.mem_cons_self, ih]

end Enrollment.Url.Percent
