import Enrollment.Text.Blank
import Enrollment.Text.Quoted
import Enrollment.Text.Utf8
/-!
# Node addresses

A node is known by forty hexadecimal digits. Reading accepts either case, either case of the
prefix and blanks around; what is kept has one written form, `0x` and lower-case digits, so two
spellings of one address are equal.

Main statement: the written form of an address reads back as that address (`parse_text`).
-/

namespace Enrollment

def Address.digitCount : Nat := 40

/-- A node address: its forty hexadecimal digits. -/
structure Address where
  /-- The digits, most significant first. -/
  digits : List (Fin 16)
  count : digits.length = Address.digitCount
  deriving DecidableEq

namespace Address

/-- Why a text is no address. Each fault shows the text as it was given. -/
inductive Fault
  | missingMark (given : String)
  | wrongCount (given : String) (bytes : Nat)
  | badDigit (given : String) (byte : UInt8) (position : Nat)
  deriving DecidableEq, Repr

def Fault.message : Fault → String
  | .missingMark given => given ++ ": missing 0x prefix"
  | .wrongCount given bytes =>
    given ++ ": expected " ++ Text.decimal digitCount ++ " hex digits, got " ++ Text.decimal bytes
  | .badDigit given byte position =>
    given ++ ": Invalid character " ++ Text.quotedChar (Char.ofNat byte.toNat) ++
      " at position " ++ Text.decimal position

def digitChars (a : Address) : List Char :=
  a.digits.map fun d => Text.digit d.val

def text (a : Address) : String :=
  String.ofList ('0' :: 'x' :: a.digitChars)

instance : ToString Address := ⟨text⟩

instance : Repr Address := ⟨fun a _ => a.text⟩

def isZero (a : Address) : Bool :=
  a.digits.all fun d => d.val == 0

def digitOfByte? (b : UInt8) : Option (Fin 16) :=
  match Text.hexValue? (Char.ofNat b.toNat) with
  | some v => if h : v < 16 then some ⟨v, h⟩ else none
  | none => none

/-- Reads bytes as digits; of bytes that are none, the first one and its position count. -/
def readDigits : Nat → Text.Bytes → Except (UInt8 × Nat) (List (Fin 16))
  | _, [] => .ok []
  | position, b :: rest =>
    match digitOfByte? b with
    | none => .error (b, position)
    | some d =>
      match readDigits (position + 1) rest with
      | .error e => .error e
      | .ok ds => .ok (d :: ds)

theorem readDigits_length {position : Nat} {bytes : Text.Bytes} {ds : List (Fin 16)}
    (h : readDigits position bytes = .ok ds) : ds.length = bytes.length := by
  induction bytes generalizing position ds with
  | nil => simp [readDigits] at h; simp [← h]
  | cons b rest ih =>
    simp only [readDigits] at h
    split at h
    · simp at h
    · split at h
      · simp at h
      · next hrest =>
        injection h with h
        simp [← h, ih hrest]

/-- What stands behind the mark of an address. -/
def behindMark? : List Char → Option (List Char)
  | '0' :: 'x' :: rest => some rest
  | '0' :: 'X' :: rest => some rest
  | _ => none

def parse (s : String) : Except Fault Address :=
  match behindMark? (Text.trim s.toList) with
  | none => .error (.missingMark s)
  | some rest =>
    let bytes := Text.encodeUtf8 rest
    if hcount : bytes.length = digitCount then
      match hdigits : readDigits 0 bytes with
      | .error (byte, position) => .error (.badDigit s byte position)
      | .ok ds => .ok ⟨ds, by rw [readDigits_length hdigits, hcount]⟩
    else .error (.wrongCount s bytes.length)

/-! ## The written form reads back -/

private theorem encodeChar_digit : ∀ d : Fin 16,
    Text.encodeChar (Text.digit d.val) = [(Text.digit d.val).toNat.toUInt8] := by
  decide

private theorem digitOfByte?_digit : ∀ d : Fin 16,
    digitOfByte? (Text.digit d.val).toNat.toUInt8 = some d := by
  decide

private theorem isBlank_digit : ∀ d : Fin 16, Text.isBlank (Text.digit d.val) = false := by
  decide

theorem encodeUtf8_digits (ds : List (Fin 16)) :
    Text.encodeUtf8 (ds.map fun d => Text.digit d.val) =
      ds.map fun d => (Text.digit d.val).toNat.toUInt8 := by
  induction ds with
  | nil => rfl
  | cons d ds ih =>
    simp only [Text.encodeUtf8, List.map_cons, List.flatMap_cons] at ih ⊢
    rw [encodeChar_digit, ih]
    rfl

theorem readDigits_written (position : Nat) (ds : List (Fin 16)) :
    readDigits position (ds.map fun d => (Text.digit d.val).toNat.toUInt8) = .ok ds := by
  induction ds generalizing position with
  | nil => rfl
  | cons d ds ih => simp only [List.map_cons, readDigits, digitOfByte?_digit, ih]

theorem dropWhile_reverse_digits (ds : List (Fin 16)) :
    ((ds.map fun d => Text.digit d.val).reverse ++ ['x', '0']).dropWhile Text.isBlank =
      (ds.map fun d => Text.digit d.val).reverse ++ ['x', '0'] := by
  cases h : (ds.map fun d => Text.digit d.val).reverse with
  | nil => rfl
  | cons c r =>
    have hc : c ∈ ds.map fun d => Text.digit d.val := by
      rw [← List.mem_reverse, h]; exact List.mem_cons_self
    obtain ⟨d, -, rfl⟩ := List.mem_map.1 hc
    simp [isBlank_digit d]

theorem trim_text (a : Address) : Text.trim a.text.toList = '0' :: 'x' :: a.digitChars := by
  have h0 : Text.isBlank '0' = false := by decide
  simp only [text, String.toList_ofList, Text.trim, Text.trimStart_of_head h0, Text.trimEnd,
    List.reverse_cons, List.append_assoc, digitChars]
  have h := dropWhile_reverse_digits a.digits
  simp only [List.cons_append, List.nil_append]
  rw [h]
  simp

theorem parse_text (a : Address) : parse a.text = .ok a := by
  obtain ⟨ds, count⟩ := a
  have hbytes : Text.encodeUtf8 (digitChars ⟨ds, count⟩) =
      ds.map fun d => (Text.digit d.val).toNat.toUInt8 := encodeUtf8_digits ds
  have hlength : (Text.encodeUtf8 (digitChars ⟨ds, count⟩)).length = digitCount := by
    rw [hbytes, List.length_map, count]
  have hread : readDigits 0 (Text.encodeUtf8 (digitChars ⟨ds, count⟩)) = .ok ds := by
    rw [hbytes, readDigits_written]
  simp only [parse, trim_text, behindMark?, hlength, ↓reduceDIte]
  split
  · next h => rw [hread] at h; simp at h
  · next ds' h => rw [hread] at h; simp at h; simp [h]

end Address

end Enrollment
