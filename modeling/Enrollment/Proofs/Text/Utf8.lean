import Mathlib.Tactic.SplitIfs
import Enrollment.Text.Utf8
/-!
# The bytes of a text read back

`decodeUtf8?` reads the UTF-8 form of every text back as that text (`decodeUtf8?_encodeUtf8`). The
four lengths of a character's form are told apart by its first byte; that the form is the shortest
one and no surrogate is what the second byte shows.

What is read of some bytes does not depend on what follows them (`decodeUtf8?_append`), and reading
leniently is reading where nothing is wrong (`decodeLenient_of_decodeUtf8?`).
-/

namespace Enrollment.Text

/-! ## Bytes as numbers -/

/-- The bytes that `encodeChar` writes hold the numbers they are made of. -/
theorem toNat_toUInt8 {n : Nat} (h : n < 256) : n.toUInt8.toNat = n :=
  UInt8.toNat_ofNat_of_lt' h

theorem beq_eq_toNat (a b : UInt8) : (a == b) = decide (a.toNat = b.toNat) := by
  rw [Bool.eq_iff_iff, beq_iff_eq, decide_eq_true_iff]
  exact UInt8.toNat_inj.symm

theorem between_iff (lo hi a : UInt8) :
    (lo ≤ a && a < hi) = true ↔ lo.toNat ≤ a.toNat ∧ a.toNat < hi.toNat := by
  simp [UInt8.le_iff_toNat_le, UInt8.lt_iff_toNat_lt]

theorem not_ascii {a : UInt8} (h : 0x80 ≤ a.toNat) : ¬ a < 0x80 := by
  simp only [UInt8.lt_iff_toNat_lt, UInt8.reduceToNat]
  omega

theorem isContinuation_iff (b : UInt8) :
    isContinuation b = true ↔ 0x80 ≤ b.toNat ∧ b.toNat < 0xc0 :=
  between_iff 0x80 0xc0 b

theorem secondAllowed_of {a b : UInt8} (hb : 0x80 ≤ b.toNat ∧ b.toNat < 0xc0)
    (he0 : a.toNat = 0xe0 → 0xa0 ≤ b.toNat) (hed : a.toNat = 0xed → b.toNat < 0xa0)
    (hf0 : a.toNat = 0xf0 → 0x90 ≤ b.toNat) (hf4 : a.toNat = 0xf4 → b.toNat < 0x90) :
    secondAllowed a b = true := by
  simp only [secondAllowed, beq_eq_toNat, UInt8.reduceToNat, decide_eq_true_eq]
  split
  · next h => exact (between_iff _ _ _).2 ⟨he0 h, hb.2⟩
  · split
    · next h => exact (between_iff _ _ _).2 ⟨hb.1, hed h⟩
    · split
      · next h => exact (between_iff _ _ _).2 ⟨hf0 h, hb.2⟩
      · split
        · next h => exact (between_iff _ _ _).2 ⟨hb.1, hf4 h⟩
        · exact (isContinuation_iff b).2 hb

/-! ## The first character of some bytes -/

theorem leading_one {a : UInt8} (h : a.toNat < 0x80) (rest : Bytes) :
    leading a rest = .char (Char.ofNat a.toNat) 1 := by
  have ha : a < 0x80 := h
  simp only [leading, ha, ↓reduceIte]

theorem leading_two {a b : UInt8} (h : 0xc2 ≤ a.toNat ∧ a.toNat < 0xe0)
    (hb : isContinuation b = true) (rest : Bytes) :
    leading a (b :: rest) =
      .char (Char.ofNat ((a.toNat - 0xc0) * 0x40 + (b.toNat - 0x80))) 2 := by
  have h1 : ¬ a < 0x80 := not_ascii (by omega)
  have h2 : (0xc2 ≤ a && a < 0xe0) = true := by
    rw [between_iff]
    exact h
  simp only [leading, h1, h2, hb, ↓reduceIte]

theorem leading_three {a b c : UInt8} (h : 0xe0 ≤ a.toNat ∧ a.toNat < 0xf0)
    (hb : secondAllowed a b = true) (hc : isContinuation c = true) (rest : Bytes) :
    leading a (b :: c :: rest) =
      .char (Char.ofNat ((a.toNat - 0xe0) * 0x1000 + (b.toNat - 0x80) * 0x40 +
        (c.toNat - 0x80))) 3 := by
  have h1 : ¬ a < 0x80 := not_ascii (by omega)
  have h2 : ¬ (0xc2 ≤ a && a < 0xe0) = true := by
    rw [between_iff]
    simp only [UInt8.reduceToNat]
    omega
  have h3 : (0xe0 ≤ a && a < 0xf0) = true := by
    rw [between_iff]
    exact h
  simp only [leading, h1, h2, h3, hb, hc, Bool.false_eq_true, ↓reduceIte]

theorem leading_four {a b c d : UInt8} (h : 0xf0 ≤ a.toNat ∧ a.toNat < 0xf5)
    (hb : secondAllowed a b = true) (hc : isContinuation c = true) (hd : isContinuation d = true)
    (rest : Bytes) :
    leading a (b :: c :: d :: rest) =
      .char (Char.ofNat ((a.toNat - 0xf0) * 0x40000 + (b.toNat - 0x80) * 0x1000 +
        (c.toNat - 0x80) * 0x40 + (d.toNat - 0x80))) 4 := by
  have h1 : ¬ a < 0x80 := not_ascii (by omega)
  have h2 : ¬ (0xc2 ≤ a && a < 0xe0) = true := by
    rw [between_iff]
    simp only [UInt8.reduceToNat]
    omega
  have h3 : ¬ (0xe0 ≤ a && a < 0xf0) = true := by
    rw [between_iff]
    simp only [UInt8.reduceToNat]
    omega
  have h4 : (0xf0 ≤ a && a < 0xf5) = true := by
    rw [between_iff]
    exact h
  simp only [leading, h1, h2, h3, h4, hb, hc, hd, Bool.false_eq_true, ↓reduceIte]

/-! ## Characters and texts -/

theorem isContinuation_low (n : Nat) : isContinuation (0x80 + n % 0x40).toUInt8 = true := by
  rw [isContinuation_iff, toNat_toUInt8 (by omega)]
  omega

/-- A code point that is written in two bytes or more is none of a surrogate. -/
theorem toNat_lt_or_gt (c : Char) : c.toNat < 0xd800 ∨ (0xdfff < c.toNat ∧ c.toNat < 0x110000) :=
  c.valid

theorem decodeUtf8?_encodeChar (c : Char) (rest : Bytes) :
    decodeUtf8? (encodeChar c ++ rest) = (decodeUtf8? rest).map (c :: ·) := by
  have hvalid := toNat_lt_or_gt c
  have hc : Char.ofNat c.toNat = c := Char.ofNat_toNat c
  generalize hn : c.toNat = n at hvalid hc
  unfold encodeChar
  simp only [hn]
  -- One case for each number of bytes; the first byte tells which it is.
  split
  · next h1 =>
    rw [List.cons_append, List.nil_append, decodeUtf8?,
      leading_one (by rw [toNat_toUInt8 (by omega)]; exact h1), toNat_toUInt8 (by omega), hc]
    rfl
  · split
    · next h1 h2 =>
      rw [List.cons_append, List.cons_append, List.nil_append, decodeUtf8?,
        leading_two (by rw [toNat_toUInt8 (by omega)]; omega) (isContinuation_low n)]
      rw [toNat_toUInt8 (by omega), toNat_toUInt8 (by omega)]
      have hsum : (0xc0 + n / 0x40 - 0xc0) * 0x40 + (0x80 + n % 0x40 - 0x80) = n := by omega
      rw [hsum, hc]
      rfl
    · split
      · next h1 h2 h3 =>
        have hsecond : secondAllowed (0xe0 + n / 0x1000).toUInt8 (0x80 + n / 0x40 % 0x40).toUInt8 =
            true := by
          apply secondAllowed_of <;> rw [toNat_toUInt8 (by omega)] <;>
            (try rw [toNat_toUInt8 (by omega)]) <;> omega
        simp only [List.cons_append, List.nil_append]
        rw [decodeUtf8?, leading_three (by rw [toNat_toUInt8 (by omega)]; omega) hsecond
          (isContinuation_low n)]
        rw [toNat_toUInt8 (by omega), toNat_toUInt8 (by omega), toNat_toUInt8 (by omega)]
        have hsum : (0xe0 + n / 0x1000 - 0xe0) * 0x1000 + (0x80 + n / 0x40 % 0x40 - 0x80) * 0x40 +
            (0x80 + n % 0x40 - 0x80) = n := by omega
        rw [hsum, hc]
        rfl
      · next h1 h2 h3 =>
        have hsecond : secondAllowed (0xf0 + n / 0x40000).toUInt8
            (0x80 + n / 0x1000 % 0x40).toUInt8 = true := by
          apply secondAllowed_of <;> rw [toNat_toUInt8 (by omega)] <;>
            (try rw [toNat_toUInt8 (by omega)]) <;> omega
        simp only [List.cons_append, List.nil_append]
        rw [decodeUtf8?, leading_four (by rw [toNat_toUInt8 (by omega)]; omega) hsecond
          (isContinuation_low _) (isContinuation_low n)]
        rw [toNat_toUInt8 (by omega), toNat_toUInt8 (by omega), toNat_toUInt8 (by omega),
          toNat_toUInt8 (by omega)]
        have hsum : (0xf0 + n / 0x40000 - 0xf0) * 0x40000 +
            (0x80 + n / 0x1000 % 0x40 - 0x80) * 0x1000 + (0x80 + n / 0x40 % 0x40 - 0x80) * 0x40 +
            (0x80 + n % 0x40 - 0x80) = n := by omega
        rw [hsum, hc]
        rfl

theorem decodeUtf8?_encodeUtf8 (s : List Char) : decodeUtf8? (encodeUtf8 s) = some s := by
  induction s with
  | nil => rw [encodeUtf8, List.flatMap_nil, decodeUtf8?]
  | cons c s ih =>
    have hcons : encodeUtf8 (c :: s) = encodeChar c ++ encodeUtf8 s := List.flatMap_cons
    rw [hcons, decodeUtf8?_encodeChar, ih]
    rfl

/-! ## Bytes with more behind them -/

/-- A character is read in the same way when more follows. -/
theorem leading_append {a : UInt8} {rest : Bytes} {c : Char} {size : Nat}
    (h : leading a rest = .char c size) (more : Bytes) :
    leading a (rest ++ more) = .char c size ∧ size - 1 ≤ rest.length := by
  -- A character has at most four bytes.
  rcases rest with _ | ⟨b, _ | ⟨c', _ | ⟨d, rest⟩⟩⟩
  all_goals
    simp only [leading, List.cons_append, List.nil_append] at h ⊢
    split_ifs at h ⊢ <;> simp_all
  all_goals omega

theorem decodeUtf8?_append {bytes : Bytes} {s : List Char} (h : decodeUtf8? bytes = some s)
    (more : Bytes) : decodeUtf8? (bytes ++ more) = (decodeUtf8? more).map (s ++ ·) := by
  induction bytes using decodeUtf8?.induct generalizing s with
  | case1 =>
    rw [decodeUtf8?] at h
    cases h
    show decodeUtf8? more = (decodeUtf8? more).map id
    rw [Option.map_id_fun, id]
  | case2 a rest c size hlead ih =>
    rw [decodeUtf8?, hlead] at h
    obtain ⟨s', hs', rfl⟩ := Option.map_eq_some_iff.1 h
    obtain ⟨hlead', hsize⟩ := leading_append hlead more
    rw [List.cons_append, decodeUtf8?, hlead']
    dsimp only
    rw [List.drop_append_of_le_length hsize, ih hs', Option.map_map]
    rfl
  | case3 a rest size hlead =>
    rw [decodeUtf8?, hlead] at h
    cases h

/-- Lenient reading is reading, where there is nothing to be lenient about. -/
theorem decodeLenient_of_decodeUtf8? {bytes : Bytes} {s : List Char}
    (h : decodeUtf8? bytes = some s) : decodeLenient bytes = s := by
  induction bytes using decodeUtf8?.induct generalizing s with
  | case1 =>
    rw [decodeUtf8?] at h
    rw [decodeLenient]
    exact Option.some.inj h
  | case2 a rest c size hlead ih =>
    rw [decodeUtf8?, hlead] at h
    obtain ⟨s', hs', rfl⟩ := Option.map_eq_some_iff.1 h
    rw [decodeLenient, hlead]
    exact congrArg (c :: ·) (ih hs')
  | case3 a rest size hlead =>
    rw [decodeUtf8?, hlead] at h
    cases h

end Enrollment.Text
