import Enrollment.Json.Reader
import Enrollment.Proofs.Text.Digits
import Mathlib.Data.List.TakeWhile
/-!
# How numerals are written in JSON

A numeral has digits, of which the first is not zero unless it is alone, and then a fraction and an
exponent as far as they are written. It ends where it cannot go on, so what follows a numeral has to
be `Clear` for the numeral to be read as it was written.

Results:
 1. `readNumeral_of_spells`: a numeral is read in front of anything clear.
 2. `spells_of_readNumeral`: what is read as a numeral is written like one.
 3. `spellsNumeral_natural`: a natural is a numeral.
-/

namespace Enrollment.Json

open Document (Numeral)
open Text (isDecimal spanDecimal toDecimal NoDigit)

/-! ## Ways to write a numeral -/

def IsRun (s : List Char) : Prop :=
  s ≠ [] ∧ ∀ c ∈ s, isDecimal c = true

/-- A fraction is a point and its digits. -/
inductive SpellsFraction : Option (List Char) → List Char → Prop
  | none : SpellsFraction none []
  | digits {s : List Char} (h : IsRun s) : SpellsFraction (some s) ('.' :: s)

/-- An exponent is a letter, perhaps a sign, and its digits. -/
inductive SpellsExponent : Option (Bool × List Char) → List Char → Prop
  | none : SpellsExponent none []
  | plain {letter : Char} {s : List Char} (hletter : letter = 'e' ∨ letter = 'E') (h : IsRun s) :
      SpellsExponent (some (false, s)) (letter :: s)
  | plus {letter : Char} {s : List Char} (hletter : letter = 'e' ∨ letter = 'E') (h : IsRun s) :
      SpellsExponent (some (false, s)) (letter :: '+' :: s)
  | minus {letter : Char} {s : List Char} (hletter : letter = 'e' ∨ letter = 'E') (h : IsRun s) :
      SpellsExponent (some (true, s)) (letter :: '-' :: s)

/-- The digits in front of the point: a zero alone, or digits of which the first is not zero. -/
def IsWhole (s : List Char) : Prop :=
  IsRun s ∧ ∀ c rest, s ≠ '0' :: c :: rest

/-- A numeral is perhaps a minus, then digits, a fraction and an exponent. -/
inductive SpellsNumeral : Numeral → List Char → Prop
  | plain {whole fraction exponent s t} (h : IsWhole whole) (hs : SpellsFraction fraction s)
      (ht : SpellsExponent exponent t) :
      SpellsNumeral ⟨false, whole, fraction, exponent⟩ (whole ++ (s ++ t))
  | minus {whole fraction exponent s t} (h : IsWhole whole) (hs : SpellsFraction fraction s)
      (ht : SpellsExponent exponent t) :
      SpellsNumeral ⟨true, whole, fraction, exponent⟩ ('-' :: (whole ++ (s ++ t)))

/-- Nothing that a numeral could go on with follows. -/
def Clear (s : List Char) : Prop :=
  ∀ c ∈ s.head?, isDecimal c = false ∧ c ≠ '.' ∧ c ≠ 'e' ∧ c ≠ 'E'

theorem clear_nil : Clear [] := by
  intro c hc
  cases hc

theorem clear_cons {c : Char} (s : List Char)
    (h : isDecimal c = false ∧ c ≠ '.' ∧ c ≠ 'e' ∧ c ≠ 'E') : Clear (c :: s) := by
  intro c' hc
  obtain rfl := Option.some.inj hc
  exact h

theorem Clear.noDigit {s : List Char} (h : Clear s) : NoDigit s :=
  fun c hc => (h c hc).1

/-! ## Runs of digits -/

theorem IsRun.head {s : List Char} (h : IsRun s) : ∃ c cs, s = c :: cs ∧ isDecimal c = true := by
  obtain ⟨c, cs, rfl⟩ := List.exists_cons_of_ne_nil h.1
  exact ⟨c, cs, rfl, h.2 c List.mem_cons_self⟩

theorem readDigits_of_run {s rest : List Char} (h : IsRun s) (hrest : NoDigit rest) :
    readDigits (s ++ rest) = some (s, rest) := by
  have hspan : spanDecimal (s ++ rest) = (s, rest) := Text.spanDecimal_of_run h.2 hrest
  unfold readDigits
  rw [hspan]
  split
  · next heq => exact absurd (Prod.mk.inj heq).1 h.1
  · next heq =>
    obtain ⟨rfl, rfl⟩ := Prod.mk.inj heq
    rfl

theorem run_of_readDigits {s digits rest : List Char} (h : readDigits s = some (digits, rest)) :
    IsRun digits ∧ s = digits ++ rest := by
  unfold readDigits at h
  split at h
  · cases h
  · next digits' rest' hne hspan =>
    cases h
    have hdigits : digits = s.takeWhile isDecimal := (congrArg Prod.fst hspan).symm
    have happend := Text.spanDecimal_append s
    rw [hspan] at happend
    refine ⟨⟨hne, fun c hc => ?_⟩, happend.symm⟩
    rw [hdigits] at hc
    exact List.mem_takeWhile_imp hc

theorem readWhole_of_isWhole {s rest : List Char} (h : IsWhole s) (hrest : NoDigit rest) :
    readWhole (s ++ rest) = some (s, rest) := by
  unfold readWhole
  rw [readDigits_of_run h.1 hrest]
  split
  · next heq => exact absurd (Prod.mk.inj (Option.some.inj heq)).1 (h.2 _ _)
  · rfl

theorem isWhole_of_readWhole {s digits rest : List Char} (h : readWhole s = some (digits, rest)) :
    IsWhole digits ∧ s = digits ++ rest := by
  unfold readWhole at h
  split at h
  · cases h
  · next hzero =>
    obtain ⟨hrun, rfl⟩ := run_of_readDigits h
    refine ⟨⟨hrun, ?_⟩, rfl⟩
    rintro c rest' rfl
    exact hzero _ _ _ h

/-! ## Fractions and exponents -/

theorem SpellsFraction.noDigit {fraction : Option (List Char)} {s rest : List Char}
    (h : SpellsFraction fraction s) (hrest : NoDigit rest) : NoDigit (s ++ rest) := by
  cases h with
  | none => exact hrest
  | digits => exact Text.noDigit_cons _ (by decide)

/-- An exponent starts with a letter, if it is not what follows it that comes first. -/
theorem SpellsExponent.head {exponent : Option (Bool × List Char)} {s rest : List Char}
    (h : SpellsExponent exponent s) (hrest : Clear rest) :
    ∀ c ∈ (s ++ rest).head?, isDecimal c = false ∧ c ≠ '.' := by
  have hletter : ∀ {letter : Char} (t : List Char), letter = 'e' ∨ letter = 'E' →
      ∀ c ∈ (letter :: t).head?, isDecimal c = false ∧ c ≠ '.' := by
    intro letter t h c hc
    obtain rfl := Option.some.inj hc
    rcases h with rfl | rfl <;> decide
  cases h with
  | none => exact fun c hc => ⟨(hrest c hc).1, (hrest c hc).2.1⟩
  | plain h => exact hletter _ h
  | plus h => exact hletter _ h
  | minus h => exact hletter _ h

theorem readFraction_of_spells {fraction : Option (List Char)} {s rest : List Char}
    (h : SpellsFraction fraction s) (hrest : ∀ c ∈ rest.head?, isDecimal c = false ∧ c ≠ '.') :
    readFraction (s ++ rest) = some (fraction, rest) := by
  cases h with
  | none =>
    rw [List.nil_append]
    unfold readFraction
    split
    · exact absurd rfl (hrest '.' rfl).2
    · rfl
  | digits h =>
    show (readDigits (_ ++ rest)).map _ = _
    rw [readDigits_of_run h fun c hc => (hrest c hc).1]
    rfl

theorem spells_of_readFraction {s rest : List Char} {fraction : Option (List Char)}
    (h : readFraction s = some (fraction, rest)) :
    ∃ t, SpellsFraction fraction t ∧ s = t ++ rest := by
  unfold readFraction at h
  split at h
  · obtain ⟨⟨digits, rest'⟩, hdigits, h⟩ := Option.map_eq_some_iff.1 h
    cases h
    obtain ⟨hrun, rfl⟩ := run_of_readDigits hdigits
    exact ⟨'.' :: digits, .digits hrun, rfl⟩
  · cases h
    exact ⟨[], .none, rfl⟩

/-- Digits without a sign are read as digits without a sign. -/
theorem readSigned_of_run {s rest : List Char} (h : IsRun s) (hrest : NoDigit rest) :
    readSigned (s ++ rest) = some (some (false, s), rest) := by
  obtain ⟨c, cs, rfl, hc⟩ := h.head
  unfold readSigned
  split
  · next heq => exact absurd hc ((List.cons.inj heq).1 ▸ by decide)
  · next heq => exact absurd hc ((List.cons.inj heq).1 ▸ by decide)
  · rw [readDigits_of_run h hrest]
    rfl

theorem readExponent_of_spells {exponent : Option (Bool × List Char)} {s rest : List Char}
    (h : SpellsExponent exponent s) (hrest : Clear rest) :
    readExponent (s ++ rest) = some (exponent, rest) := by
  have hletter : ∀ {letter : Char} (t : List Char), letter = 'e' ∨ letter = 'E' →
      readExponent (letter :: t) = readSigned t := by
    rintro letter t (rfl | rfl) <;> rfl
  cases h with
  | none =>
    rw [List.nil_append]
    unfold readExponent
    split
    · exact absurd rfl (hrest 'e' rfl).2.2.1
    · exact absurd rfl (hrest 'E' rfl).2.2.2
    · rfl
  | plain h hrun =>
    rw [List.cons_append, hletter _ h, readSigned_of_run hrun hrest.noDigit]
  | plus h hrun =>
    rw [List.cons_append, hletter _ h]
    show (readDigits (_ ++ rest)).map _ = _
    rw [readDigits_of_run hrun hrest.noDigit]
    rfl
  | minus h hrun =>
    rw [List.cons_append, hletter _ h]
    show (readDigits (_ ++ rest)).map _ = _
    rw [readDigits_of_run hrun hrest.noDigit]
    rfl

theorem spells_of_readSigned {letter : Char} {s rest : List Char}
    {exponent : Option (Bool × List Char)} (hletter : letter = 'e' ∨ letter = 'E')
    (h : readSigned s = some (exponent, rest)) :
    ∃ t, SpellsExponent exponent t ∧ letter :: s = t ++ rest := by
  unfold readSigned at h
  split at h
  · obtain ⟨⟨digits, rest'⟩, hdigits, h⟩ := Option.map_eq_some_iff.1 h
    cases h
    obtain ⟨hrun, rfl⟩ := run_of_readDigits hdigits
    exact ⟨letter :: '-' :: digits, .minus hletter hrun, rfl⟩
  · obtain ⟨⟨digits, rest'⟩, hdigits, h⟩ := Option.map_eq_some_iff.1 h
    cases h
    obtain ⟨hrun, rfl⟩ := run_of_readDigits hdigits
    exact ⟨letter :: '+' :: digits, .plus hletter hrun, rfl⟩
  · obtain ⟨⟨digits, rest'⟩, hdigits, h⟩ := Option.map_eq_some_iff.1 h
    cases h
    obtain ⟨hrun, rfl⟩ := run_of_readDigits hdigits
    exact ⟨letter :: digits, .plain hletter hrun, rfl⟩

theorem spells_of_readExponent {s rest : List Char} {exponent : Option (Bool × List Char)}
    (h : readExponent s = some (exponent, rest)) :
    ∃ t, SpellsExponent exponent t ∧ s = t ++ rest := by
  unfold readExponent at h
  split at h
  · exact spells_of_readSigned (.inl rfl) h
  · exact spells_of_readSigned (.inr rfl) h
  · cases h
    exact ⟨[], .none, rfl⟩

/-! ## Numerals -/

theorem readUnsigned_of_spells {negative : Bool} {whole fraction exponent s t rest}
    (h : IsWhole whole) (hs : SpellsFraction fraction s) (ht : SpellsExponent exponent t)
    (hrest : Clear rest) : readUnsigned negative (whole ++ (s ++ t) ++ rest) =
      some (⟨negative, whole, fraction, exponent⟩, rest) := by
  have hhead := ht.head hrest
  have hdigit : NoDigit (s ++ (t ++ rest)) := hs.noDigit fun c hc => (hhead c hc).1
  rw [List.append_assoc, List.append_assoc]
  simp only [readUnsigned, readWhole_of_isWhole h hdigit, readFraction_of_spells hs hhead,
    readExponent_of_spells ht hrest, Option.bind_eq_bind, Option.bind_some]

theorem spells_of_readUnsigned {negative : Bool} {s rest : List Char} {n : Numeral}
    (h : readUnsigned negative s = some (n, rest)) :
    ∃ whole fraction exponent t u, IsWhole whole ∧ SpellsFraction fraction t ∧
      SpellsExponent exponent u ∧ n = ⟨negative, whole, fraction, exponent⟩ ∧
      s = whole ++ (t ++ u) ++ rest := by
  obtain ⟨⟨whole, s₁⟩, hwhole, h⟩ := Option.bind_eq_some_iff.1 h
  obtain ⟨⟨fraction, s₂⟩, hfraction, h⟩ := Option.bind_eq_some_iff.1 h
  obtain ⟨⟨exponent, s₃⟩, hexponent, h⟩ := Option.bind_eq_some_iff.1 h
  cases h
  obtain ⟨hw, rfl⟩ := isWhole_of_readWhole hwhole
  obtain ⟨t, ht, rfl⟩ := spells_of_readFraction hfraction
  obtain ⟨u, hu, rfl⟩ := spells_of_readExponent hexponent
  refine ⟨whole, fraction, exponent, t, u, hw, ht, hu, rfl, ?_⟩
  rw [List.append_assoc, List.append_assoc]

/-- A numeral starts with a minus or a digit. -/
theorem SpellsNumeral.head {n : Numeral} {s : List Char} (h : SpellsNumeral n s) :
    ∃ c cs, s = c :: cs ∧ (c = '-' ∨ isDecimal c = true) := by
  cases h with
  | plain h =>
    obtain ⟨c, cs, rfl, hc⟩ := h.1.head
    exact ⟨c, _, rfl, .inr hc⟩
  | minus => exact ⟨'-', _, rfl, .inl rfl⟩

/-- A numeral is read in front of anything it cannot go on with. -/
theorem readNumeral_of_spells {n : Numeral} {s rest : List Char} (h : SpellsNumeral n s)
    (hrest : Clear rest) : readNumeral (s ++ rest) = some (n, rest) := by
  cases h with
  | plain h hs ht =>
    rw [← readUnsigned_of_spells h hs ht hrest]
    obtain ⟨c, cs, rfl, hc⟩ := h.1.head
    unfold readNumeral
    split
    · next heq => exact absurd hc ((List.cons.inj heq).1 ▸ by decide)
    · rfl
  | minus h hs ht => exact readUnsigned_of_spells h hs ht hrest

/-- What is read as a numeral is written like one. -/
theorem spells_of_readNumeral {s rest : List Char} {n : Numeral}
    (h : readNumeral s = some (n, rest)) : ∃ t, SpellsNumeral n t ∧ s = t ++ rest := by
  unfold readNumeral at h
  split at h
  · obtain ⟨whole, fraction, exponent, t, u, hw, ht, hu, rfl, rfl⟩ := spells_of_readUnsigned h
    exact ⟨_, .minus hw ht hu, rfl⟩
  · obtain ⟨whole, fraction, exponent, t, u, hw, ht, hu, rfl, rfl⟩ := spells_of_readUnsigned h
    exact ⟨_, .plain hw ht hu, rfl⟩

/-! ## Naturals -/

theorem toDecimal_pos_head {n : Nat} (h : 0 < n) (rest : List Char) :
    toDecimal n ≠ '0' :: rest := by
  unfold toDecimal
  induction n using Nat.strongRecOn generalizing rest with
  | ind n ih =>
    rw [Text.toBase_eq]
    split
    · next hn =>
      intro heq
      have hvalue := Text.decimalValue?_digit (n := n) (by omega)
      rw [(List.cons.inj heq).1, Text.decimalValue?_zero] at hvalue
      have := Option.some.inj hvalue
      omega
    · next hn =>
      obtain ⟨c, cs, hcs⟩ := List.exists_cons_of_ne_nil (Text.toBase_ne_nil 10 (n / 10))
      intro heq
      rw [hcs, List.cons_append, List.cons.injEq] at heq
      exact ih (n / 10) (by omega) (by omega) cs (heq.1 ▸ hcs)

/-- A zero in front of further digits is never written. -/
theorem toDecimal_ne_zero_cons (n : Nat) (c : Char) (rest : List Char) :
    toDecimal n ≠ '0' :: c :: rest := by
  rcases Nat.eq_zero_or_pos n with rfl | h
  · intro heq
    rw [toDecimal, Text.toBase_eq] at heq
    exact absurd heq (by simp)
  · exact toDecimal_pos_head h _

theorem spellsNumeral_natural (n : Nat) :
    SpellsNumeral ⟨false, toDecimal n, none, none⟩ (toDecimal n) := by
  have hwhole : IsWhole (toDecimal n) :=
    ⟨⟨Text.toBase_ne_nil 10 n, fun c hc => Text.isDecimal_of_mem_toDecimal hc⟩,
      toDecimal_ne_zero_cons n⟩
  have h := SpellsNumeral.plain hwhole .none .none
  rw [List.append_nil, List.append_nil] at h
  exact h

end Enrollment.Json
