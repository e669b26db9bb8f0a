/-!
# Bytes of a text

The UTF-8 form of a text, strict and lenient reading of bytes, and the length in bytes.
-/

namespace Enrollment.Text

/-- Bytes as they travel and as files hold them. -/
abbrev Bytes := List UInt8

/-- The UTF-8 form of one character. -/
def encodeChar (c : Char) : Bytes :=
  let n := c.toNat
  if n < 0x80 then [n.toUInt8]
  else if n < 0x800 then [(0xc0 + n / 0x40).toUInt8, (0x80 + n % 0x40).toUInt8]
  else if n < 0x10000 then
    [(0xe0 + n / 0x1000).toUInt8, (0x80 + n / 0x40 % 0x40).toUInt8, (0x80 + n % 0x40).toUInt8]
  else
    [(0xf0 + n / 0x40000).toUInt8, (0x80 + n / 0x1000 % 0x40).toUInt8,
      (0x80 + n / 0x40 % 0x40).toUInt8, (0x80 + n % 0x40).toUInt8]

/-- The UTF-8 form of a text. -/
def encodeUtf8 (s : List Char) : Bytes :=
  s.flatMap encodeChar

/-- How many bytes a text takes. -/
def byteLength (s : List Char) : Nat :=
  (encodeUtf8 s).length

/-- What a sequence of bytes starts with. -/
inductive Leading
  | char (c : Char) (size : Nat)
  | stray (size : Nat)

def isContinuation (b : UInt8) : Bool :=
  0x80 ≤ b && b < 0xc0

/-- The two bytes after a leading byte that leave room for a shortest form of a scalar value. -/
def secondAllowed (lead second : UInt8) : Bool :=
  if lead == 0xe0 then 0xa0 ≤ second && second < 0xc0
  else if lead == 0xed then 0x80 ≤ second && second < 0xa0
  else if lead == 0xf0 then 0x90 ≤ second && second < 0xc0
  else if lead == 0xf4 then 0x80 ≤ second && second < 0x90
  else isContinuation second

/-- Reads the first character of some bytes. Of an ill-formed sequence the longest part that could
have begun a character is taken at once. -/
def leading : UInt8 → Bytes → Leading
  | a, rest =>
    if a < 0x80 then .char (Char.ofNat a.toNat) 1
    else if 0xc2 ≤ a && a < 0xe0 then
      match rest with
      | b :: _ =>
        if isContinuation b then
          .char (Char.ofNat ((a.toNat - 0xc0) * 0x40 + (b.toNat - 0x80))) 2
        else .stray 1
      | [] => .stray 1
    else if 0xe0 ≤ a && a < 0xf0 then
      match rest with
      | b :: rest =>
        if secondAllowed a b then
          match rest with
          | c :: _ =>
            if isContinuation c then
              .char (Char.ofNat ((a.toNat - 0xe0) * 0x1000 + (b.toNat - 0x80) * 0x40 +
                (c.toNat - 0x80))) 3
            else .stray 2
          | [] => .stray 2
        else .stray 1
      | [] => .stray 1
    else if 0xf0 ≤ a && a < 0xf5 then
      match rest with
      | b :: rest =>
        if secondAllowed a b then
          match rest with
          | c :: rest =>
            if isContinuation c then
              match rest with
              | d :: _ =>
                if isContinuation d then
                  .char (Char.ofNat ((a.toNat - 0xf0) * 0x40000 + (b.toNat - 0x80) * 0x1000 +
                    (c.toNat - 0x80) * 0x40 + (d.toNat - 0x80))) 4
                else .stray 3
              | [] => .stray 3
            else .stray 2
          | [] => .stray 2
        else .stray 1
      | [] => .stray 1
    else .stray 1

/-- The characters of some bytes; none if they are not the UTF-8 form of a text. -/
def decodeUtf8? (bytes : Bytes) : Option (List Char) :=
  match bytes with
  | [] => some []
  | a :: rest =>
    match leading a rest with
    | .char c size => (decodeUtf8? (rest.drop (size - 1))).map (c :: ·)
    | .stray _ => none
termination_by bytes.length
decreasing_by simp only [List.length_drop, List.length_cons]; omega

/-- The characters of some bytes, with a replacement character for every ill-formed part. -/
def decodeLenient (bytes : Bytes) : List Char :=
  match bytes with
  | [] => []
  | a :: rest =>
    match leading a rest with
    | .char c size => c :: decodeLenient (rest.drop (size - 1))
    | .stray size => '\uFFFD' :: decodeLenient (rest.drop (size - 1))
termination_by bytes.length
decreasing_by all_goals simp only [List.length_drop, List.length_cons]; omega

theorem encodeUtf8_append (s t : List Char) :
    encodeUtf8 (s ++ t) = encodeUtf8 s ++ encodeUtf8 t := by
  simp [encodeUtf8]

end Enrollment.Text
