import Enrollment.Failure
import Enrollment.Json.Reader
import Enrollment.Proofs.Address.Spelling
/-!
# Which texts are addresses

A text is an address exactly if it is spelled like one: a zero and an x of either case, and behind
them forty hexadecimal digits of either case, with nothing but blanks around. The address has the
digits in lower case, so its written form stands for all of its spellings.

Results:
 1. `parse_eq_ok_iff_read`: reading an address, step by step.
 2. `parse_of_spelledBy`, `spelledBy_of_parse`: which texts are read, and as what.
 3. `decode_address_iff`: an address in a document is a text that is read as one.
 4. `address_grammar`: the grammar, and what follows for written forms, documents, two spellings and
    the zero address.
-/

namespace Enrollment.Address

open Document (Codec)

/-- A hexadecimal digit of either case. -/
def IsDigit (c : Char) : Prop :=
  c ∈ "0123456789abcdefABCDEF".toList

instance (c : Char) : Decidable (IsDigit c) :=
  inferInstanceAs (Decidable (c ∈ _))

/-- A text spells an address by some digits. -/
structure SpelledBy (s : String) (digits : List Char) : Prop where
  shape : ∃ before mark behind, s.toList = before ++ ('0' :: mark :: digits ++ behind) ∧
    (mark = 'x' ∨ mark = 'X') ∧ (∀ c ∈ before, Text.isBlank c = true) ∧
    ∀ c ∈ behind, Text.isBlank c = true
  count : digits.length = 40
  hexadecimal : ∀ c ∈ digits, IsDigit c

/-- A written form: a zero, an x and forty digits, all in lower case. -/
def IsCanonical (s : String) : Prop :=
  ∃ digits, s.toList = '0' :: 'x' :: digits ∧ digits.length = 40 ∧
    ∀ c ∈ digits, c ∈ "0123456789abcdef".toList

/-! ## Digits -/

/-- A digit is no blank, and it is one byte, which is read as a digit. -/
theorem IsDigit.byte {c : Char} (h : IsDigit c) :
    Text.isBlank c = false ∧ Text.encodeChar c = [c.toNat.toUInt8] ∧
      ∃ d, digitOfByte? c.toNat.toUInt8 = some d := by
  have hall : ("0123456789abcdefABCDEF".toList.all fun c => Text.isBlank c = false ∧
      Text.encodeChar c = [c.toNat.toUInt8] ∧ (digitOfByte? c.toNat.toUInt8).isSome = true) =
        true := by
    decide +kernel
  obtain ⟨hblank, hbyte, hdigit⟩ := of_decide_eq_true (List.all_eq_true.1 hall c h)
  exact ⟨hblank, hbyte, Option.isSome_iff_exists.1 hdigit⟩

/-- What is the digit of a value in lower case is a digit. -/
theorem isDigit_of_toLower {c : Char} {d : Fin 16} (h : c.toLower = Text.digit d.val) :
    IsDigit c := by
  have hlow : c.toNat < 0x80 := by
    have hdigit : ∀ d : Fin 16, (Text.digit d.val).toNat < 0x80 := by decide
    unfold Char.toLower at h
    split at h
    · next hupper =>
      exact Nat.lt_of_le_of_lt (UInt32.le_iff_toNat_le.1 hupper.2) (by decide)
    · exact h ▸ hdigit d
  have hall : ∀ n < 0x80, ∀ d : Fin 16, (Char.ofNat n).toLower = Text.digit d.val →
      IsDigit (Char.ofNat n) := by decide +kernel
  have hc := hall c.toNat hlow d
  rw [Char.ofNat_toNat] at hc
  exact hc h

theorem isDigit_of_lower {s : List Char} {ds : List (Fin 16)}
    (h : s.map Char.toLower = ds.map fun d => Text.digit d.val) : ∀ c ∈ s, IsDigit c := by
  intro c hc
  have hlower : c.toLower ∈ ds.map fun d => Text.digit d.val := h ▸ List.mem_map_of_mem hc
  obtain ⟨d, -, hd⟩ := List.mem_map.1 hlower
  exact isDigit_of_toLower hd.symm

/-- Digits take a byte each, and all of them are read. -/
theorem readDigits_of_isDigit {s : List Char} (h : ∀ c ∈ s, IsDigit c) (position : Nat) :
    (Text.encodeUtf8 s).length = s.length ∧
      ∃ ds, readDigits position (Text.encodeUtf8 s) = .ok ds := by
  induction s generalizing position with
  | nil => exact ⟨rfl, [], rfl⟩
  | cons c s ih =>
    obtain ⟨-, hbyte, d, hd⟩ := (h c List.mem_cons_self).byte
    obtain ⟨hlength, ds, hds⟩ := ih (fun c' hc' => h c' (List.mem_cons_of_mem c hc')) (position + 1)
    have happend : Text.encodeUtf8 (c :: s) = c.toNat.toUInt8 :: Text.encodeUtf8 s := by
      show Text.encodeChar c ++ Text.encodeUtf8 s = _
      rw [hbyte]
      rfl
    rw [happend]
    refine ⟨congrArg Nat.succ hlength, d :: ds, ?_⟩
    rw [readDigits, hd]
    dsimp only
    rw [hds]

/-! ## Spellings -/

theorem parse_eq_ok_iff_read {s : String} {a : Address} :
    parse s = .ok a ↔ ∃ rest, behindMark? (Text.trim s.toList) = some rest ∧
      (Text.encodeUtf8 rest).length = digitCount ∧
      readDigits 0 (Text.encodeUtf8 rest) = .ok a.digits := by
  obtain ⟨digits, hcount⟩ := a
  unfold parse
  constructor
  · intro h
    split at h
    · cases h
    · next rest hrest =>
      dsimp only at h
      split at h
      · next hlength =>
        split at h
        · cases h
        · next ds hds =>
          cases h
          exact ⟨rest, hrest, hlength, hds⟩
      · cases h
  · rintro ⟨rest, hrest, hlength, hread⟩
    rw [hrest]
    dsimp only
    rw [dif_pos hlength]
    split
    · next hfault =>
      rw [hread] at hfault
      cases hfault
    · next ds hds =>
      obtain rfl := Except.ok.inj (hds.symm.trans hread)
      rfl

/-- What is left of a spelling without its blanks. -/
theorem SpelledBy.trim {s : String} {digits : List Char} (h : SpelledBy s digits) :
    ∃ mark, (mark = 'x' ∨ mark = 'X') ∧ Text.trim s.toList = '0' :: mark :: digits := by
  obtain ⟨before, mark, behind, hs, hmark, hbefore, hbehind⟩ := h.shape
  refine ⟨mark, hmark, ?_⟩
  rw [hs]
  refine Text.trim_between hbefore hbehind ?_ ?_
  · intro c hc
    obtain rfl := Option.some.inj hc
    rfl
  · intro c hc
    rcases List.mem_cons.1 (List.mem_of_getLast? hc) with rfl | hc
    · rfl
    · rcases List.mem_cons.1 hc with rfl | hc
      · rcases hmark with rfl | rfl <;> rfl
      · exact (h.hexadecimal c hc).byte.1

/-- What spells an address is read as the address of its digits. -/
theorem parse_of_spelledBy {s : String} {digits : List Char} (h : SpelledBy s digits) :
    ∃ a, parse s = .ok a ∧ a.text.toList = '0' :: 'x' :: digits.map Char.toLower := by
  obtain ⟨mark, hmark, htrim⟩ := h.trim
  obtain ⟨hlength, ds, hds⟩ := readDigits_of_isDigit h.hexadecimal 0
  have hcount : (Text.encodeUtf8 digits).length = digitCount := hlength.trans h.count
  have hrest : behindMark? (Text.trim s.toList) = some digits := by
    rw [htrim]
    rcases hmark with rfl | rfl <;> rfl
  have hparse : parse s = .ok ⟨ds, (readDigits_length hds).trans hcount⟩ :=
    parse_eq_ok_iff_read.2 ⟨digits, hrest, hcount, hds⟩
  refine ⟨_, hparse, ?_⟩
  rw [text_of_parse hparse, htrim]
  rcases hmark with rfl | rfl <;> rfl

/-- What is read as an address spells it. -/
theorem spelledBy_of_parse {s : String} {a : Address} (h : parse s = .ok a) :
    ∃ digits, SpelledBy s digits ∧ a.text.toList = '0' :: 'x' :: digits.map Char.toLower := by
  obtain ⟨digits, hrest, hlength, hread⟩ := parse_eq_ok_iff_read.1 h
  obtain ⟨before, behind, hs, hbefore, hbehind⟩ := Text.eq_between_trim s.toList
  have hspelled := readDigits_spelling hread
  have hmark : ∃ mark, (mark = 'x' ∨ mark = 'X') ∧ Text.trim s.toList = '0' :: mark :: digits := by
    rcases behindMark?_eq_some hrest with htrim | htrim
    · exact ⟨'x', .inl rfl, htrim⟩
    · exact ⟨'X', .inr rfl, htrim⟩
  obtain ⟨mark, hmark, htrim⟩ := hmark
  rw [htrim] at hs
  have hcount : digits.length = 40 := by
    have hsame := congrArg List.length hspelled
    rw [List.length_map, List.length_map, a.count] at hsame
    exact hsame
  refine ⟨digits, ⟨⟨before, mark, behind, hs, hmark, hbefore, hbehind⟩, hcount,
    isDigit_of_lower hspelled⟩, ?_⟩
  rw [text_of_parse h, htrim]
  rcases hmark with rfl | rfl <;> rfl

/-! ## Written forms -/

theorem isCanonical_text (a : Address) : IsCanonical a.text := by
  have hlower : ∀ d : Fin 16, Text.digit d.val ∈ "0123456789abcdef".toList := by decide
  refine ⟨a.digitChars, String.toList_ofList, ?_, ?_⟩
  · rw [digitChars, List.length_map]
    exact a.count
  · intro c hc
    obtain ⟨d, -, rfl⟩ := List.mem_map.1 hc
    exact hlower d

theorem isZero_iff (a : Address) :
    a.isZero = true ↔ a.text.toList = '0' :: 'x' :: List.replicate 40 '0' := by
  have hdigit : ∀ d : Fin 16, (d.val == 0) = true ↔ Text.digit d.val = '0' := by decide
  have hlength : a.digitChars.length = 40 := by
    rw [digitChars, List.length_map]
    exact a.count
  rw [text, String.toList_ofList, List.cons_inj_right, List.cons_inj_right, List.eq_replicate_iff,
    isZero, List.all_eq_true]
  constructor
  · intro h
    refine ⟨hlength, fun c hc => ?_⟩
    obtain ⟨d, hd, rfl⟩ := List.mem_map.1 hc
    exact (hdigit d).1 (h d hd)
  · rintro ⟨-, h⟩ d hd
    exact (hdigit d).2 (h _ (List.mem_map_of_mem hd))

/-- A tree is read as an address exactly if it is read as a text, and that as an address. -/
theorem codec_decode_iff {t : Document.Tree} {a : Address} :
    Codec.address.decode .json t = .ok a ↔
      ∃ s, Codec.text.decode .json t = .ok s ∧ parse s = .ok a := by
  cases t with
  | text s =>
    cases s with
    | none => exact ⟨nofun, nofun⟩
    | some s =>
      unfold Codec.address
      dsimp only
      constructor
      · intro h
        split at h
        · next b hparse =>
          cases h
          exact ⟨s, rfl, hparse⟩
        · cases h
      · rintro ⟨s', hs, hparse⟩
        cases hs
        rw [hparse]
  | _ => exact ⟨nofun, nofun⟩

/-- An address in a document is a text in it that is read as an address. -/
theorem decode_address_iff {body : String} {a : Address} :
    Json.decode Codec.address body = .ok a ↔
      ∃ s, Json.decode Codec.text body = .ok s ∧ parse s = .ok a := by
  simp only [Json.decode_eq_ok_iff, codec_decode_iff]
  constructor
  · rintro ⟨hend, s, hs, hparse⟩
    exact ⟨s, ⟨hend, hs⟩, hparse⟩
  · rintro ⟨s, ⟨hend, hs⟩, hparse⟩
    exact ⟨hend, s, hs, hparse⟩

/-! ## The grammar -/

/-- A text is read as an address exactly if it spells one, and then as that of its digits in lower
case; anything else is an invalid address. So an address has one written form, which reads back; in
a document it is a text that spells it; two texts that are read spell the same address if they
differ in nothing but case and the blanks around; and the zero address has no other digits. -/
theorem address_grammar :
    (∀ s, (∃ a, parse s = .ok a) ↔ ∃ digits, SpelledBy s digits) ∧
    (∀ s a, parse s = .ok a ↔
      ∃ digits, SpelledBy s digits ∧ a.text.toList = '0' :: 'x' :: digits.map Char.toLower) ∧
    (∀ s, (∃ reason, (parse s).mapError Fault.toFailure = .error (.invalidAddress reason)) ↔
      ¬∃ digits, SpelledBy s digits) ∧
    (∀ body a, Json.decode Codec.address body = .ok a ↔
      ∃ s, Json.decode Codec.text body = .ok s ∧ parse s = .ok a) ∧
    (∀ a : Address, IsCanonical a.text ∧ parse a.text = .ok a) ∧
    (∀ s t a b, parse s = .ok a → parse t = .ok b →
      (a = b ↔
        (Text.trim s.toList).map Char.toLower = (Text.trim t.toList).map Char.toLower)) ∧
    ∀ a : Address, a.isZero = true ↔ a.text.toList = '0' :: 'x' :: List.replicate 40 '0' := by
  have hread : ∀ s, (∃ a, parse s = .ok a) ↔ ∃ digits, SpelledBy s digits := by
    intro s
    constructor
    · rintro ⟨a, ha⟩
      obtain ⟨digits, hdigits, -⟩ := spelledBy_of_parse ha
      exact ⟨digits, hdigits⟩
    · rintro ⟨digits, hdigits⟩
      obtain ⟨a, ha, -⟩ := parse_of_spelledBy hdigits
      exact ⟨a, ha⟩
  refine ⟨hread, ?_, ?_, fun _ _ => decode_address_iff, fun a => ⟨isCanonical_text a, parse_text a⟩,
    ?_, isZero_iff⟩
  · intro s a
    refine ⟨spelledBy_of_parse, ?_⟩
    rintro ⟨digits, hdigits, htext⟩
    obtain ⟨b, hb, hbtext⟩ := parse_of_spelledBy hdigits
    rw [hb, text_injective (htext.trans hbtext.symm)]
  · intro s
    rw [← hread]
    cases parse s with
    | ok a => exact iff_of_false nofun fun h => h ⟨a, rfl⟩
    | error fault => exact iff_of_true ⟨fault.message, rfl⟩ nofun
  · intro s t a b ha hb
    rw [← text_of_parse ha, ← text_of_parse hb]
    exact ⟨congrArg fun a : Address => a.text.toList, text_injective⟩

/-- An address with a line break in front, and with letters and the mark in upper case. -/
theorem spelled_twice :
    let s := "\n0X00000000000000000000000000000000000000AB"
    let t := "0x00000000000000000000000000000000000000ab"
    let a : Address := ⟨List.replicate 38 0 ++ [10, 11], rfl⟩
    parse s = .ok a ∧ parse t = .ok a ∧
      (Text.trim s.toList).map Char.toLower = (Text.trim t.toList).map Char.toLower := by
  intro s t a
  have hread : ∀ {x : Except Fault Address}, x.toOption = some a → x = .ok a := by
    intro x hx
    cases x with
    | error fault => cases hx
    | ok b => rw [Option.some.inj hx]
  have hs : parse s = .ok a := hread (by decide +kernel)
  have ht : parse t = .ok a := hread (by decide +kernel)
  exact ⟨hs, ht, (address_grammar.2.2.2.2.2.1 s t a a hs ht).1 rfl⟩

end Enrollment.Address
