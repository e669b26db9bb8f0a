import Enrollment.Address
import Enrollment.Proofs.Text.Utf8
/-!
# How addresses are spelled

However an address was spelled, its written form is the text that was read, in lower case and without
the blanks around it.

Results:
 1. `readDigits_spelling`: what is read digit by digit is the digits in either case, and nothing else.
 2. `text_of_parse`: the written form of an address that was read.
 3. `text_injective`: no two addresses have one written form.
-/

namespace Enrollment.Address

/-- A hexadecimal digit is one character of ASCII, and in lower case it is the digit of its value. -/
theorem toLower_of_hexValue? {c : Char} {v : Nat} (h : Text.hexValue? c = some v) :
    c.toNat < 0x80 ∧ c.toLower = Text.digit v := by
  have hall : ∀ n < 0x80, ∀ v ∈ Text.hexValue? (Char.ofNat n),
      (Char.ofNat n).toLower = Text.digit v := by decide +kernel
  have hlow : c.toNat < 0x80 := by
    have hle : ∀ d : Char, d.toNat < 0x80 → c ≤ d → c.toNat < 0x80 :=
      fun d hd hc => Nat.lt_of_le_of_lt hc hd
    unfold Text.hexValue? at h
    split at h
    · next hc => exact hle '9' (by decide) hc.2
    · split at h
      · next hc => exact hle 'f' (by decide) hc.2
      · split at h
        · next hc => exact hle 'F' (by decide) hc.2
        · cases h
  refine ⟨hlow, ?_⟩
  have hc := hall c.toNat hlow v
  rw [Char.ofNat_toNat] at hc
  exact hc h

theorem toLower_of_digitOfByte? {b : UInt8} {d : Fin 16} (h : digitOfByte? b = some d) :
    b.toNat < 0x80 ∧ (Char.ofNat b.toNat).toLower = Text.digit d.val := by
  unfold digitOfByte? at h
  split at h
  · next v hv =>
    split at h
    · cases h
      obtain ⟨hlow, hlower⟩ := toLower_of_hexValue? hv
      have hchar : ∀ n < 0x100, (Char.ofNat n).toNat = n := by decide +kernel
      rw [hchar _ b.toNat_lt] at hlow
      exact ⟨hlow, hlower⟩
    · cases h
  · cases h

/-- A character beyond ASCII starts with a byte beyond ASCII. -/
theorem encodeChar_cases (c : Char) :
    (c.toNat < 0x80 ∧ Text.encodeChar c = [c.toNat.toUInt8]) ∨
      ∃ b rest, Text.encodeChar c = b :: rest ∧ 0x80 ≤ b.toNat := by
  have hrange := Text.toNat_lt_or_gt c
  have hbyte : ∀ n, n < 0x100 → 0x80 ≤ n → 0x80 ≤ n.toUInt8.toNat := by
    intro n hn hge
    rw [Text.toNat_toUInt8 hn]
    exact hge
  unfold Text.encodeChar
  dsimp only
  split
  · next hlow => exact .inl ⟨hlow, rfl⟩
  · split
    · exact .inr ⟨_, _, rfl, hbyte _ (by omega) (by omega)⟩
    · split
      · exact .inr ⟨_, _, rfl, hbyte _ (by omega) (by omega)⟩
      · exact .inr ⟨_, _, rfl, hbyte _ (by omega) (by omega)⟩

/-- The first digit that is read, and those behind it. -/
theorem readDigits_cons {position : Nat} {b : UInt8} {rest : Text.Bytes} {ds : List (Fin 16)}
    (h : readDigits position (b :: rest) = .ok ds) :
    ∃ d ds', digitOfByte? b = some d ∧ readDigits (position + 1) rest = .ok ds' ∧ ds = d :: ds' := by
  rw [readDigits] at h
  split at h
  · cases h
  · next d hd =>
    split at h
    · cases h
    · next ds' hds' =>
      cases h
      exact ⟨d, ds', hd, hds', rfl⟩

/-- What is read digit by digit is the digits in either case, and nothing else. -/
theorem readDigits_spelling {position : Nat} {s : List Char} {ds : List (Fin 16)}
    (h : readDigits position (Text.encodeUtf8 s) = .ok ds) :
    s.map Char.toLower = ds.map fun d => Text.digit d.val := by
  induction s generalizing position ds with
  | nil =>
    cases h
    rfl
  | cons c s ih =>
    have happend : Text.encodeUtf8 (c :: s) = Text.encodeChar c ++ Text.encodeUtf8 s := rfl
    rw [happend] at h
    rcases encodeChar_cases c with ⟨hlow, hc⟩ | ⟨b, rest, hc, hhigh⟩
    · rw [hc] at h
      obtain ⟨d, ds', hd, hds', rfl⟩ := readDigits_cons h
      have hlower := (toLower_of_digitOfByte? hd).2
      rw [Text.toNat_toUInt8 (by omega), Char.ofNat_toNat] at hlower
      rw [List.map_cons, List.map_cons, hlower, ih hds']
    · rw [hc] at h
      obtain ⟨d, ds', hd, -⟩ := readDigits_cons h
      have hascii := (toLower_of_digitOfByte? hd).1
      omega

theorem behindMark?_eq_some {s rest : List Char} (h : behindMark? s = some rest) :
    s = '0' :: 'x' :: rest ∨ s = '0' :: 'X' :: rest := by
  unfold behindMark? at h
  split at h
  · cases h
    exact .inl rfl
  · cases h
    exact .inr rfl
  · cases h

/-- The written form of an address that was read: the text without the blanks around it, in lower
case. -/
theorem text_of_parse {s : String} {a : Address} (h : parse s = .ok a) :
    a.text.toList = (Text.trim s.toList).map Char.toLower := by
  unfold parse at h
  split at h
  · cases h
  · next rest hrest =>
    dsimp only at h
    split at h
    · split at h
      · cases h
      · next ds hds =>
        cases h
        have hspelled := readDigits_spelling hds
        rw [text, String.toList_ofList, digitChars, ← hspelled]
        rcases behindMark?_eq_some hrest with htrim | htrim <;> rw [htrim] <;> rfl
    · cases h

/-- An address is known by its written form. -/
theorem text_injective {a b : Address} (h : a.text.toList = b.text.toList) : a = b := by
  have hparse := congrArg parse (String.toList_inj.1 h)
  rw [parse_text, parse_text] at hparse
  exact Except.ok.inj hparse

end Enrollment.Address
