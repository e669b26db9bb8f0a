import Enrollment.Json.Printer
import Enrollment.Json.Reader
/-!
# How texts are written in JSON

A character has more than one way to be written: as itself, behind a backslash, as a code unit, or
as a pair of them. The reader looks at two code units at once, for a pair of surrogates; `WholeUnit`
is what lets a unit in front of another one be read on its own.

Results:
 1. `readText_of_writesAll`: characters in any of their ways are read up to the closing quote.
 2. `writesAll_of_readText`: what is read up to a closing quote are characters in one of these ways.
-/

namespace Enrollment.Json

/-! ## Ways to write a character -/

/-- The ways to write a character of a text:

- as itself, if it is neither a quote, nor a backslash, nor a control character;
- as the letter that stands for it, behind a backslash;
- as its code unit, in four hexadecimal digits;
- as the two code units of a pair. -/
inductive Writes : Char → List Char → Prop
  | plain {c : Char} (hquote : c ≠ '"') (hslash : c ≠ '\\') (hcontrol : 0x20 ≤ c.toNat) :
      Writes c [c]
  | letter {c letter : Char} (h : characterOf? letter = some c) : Writes c ['\\', letter]
  | unit {a b c d : Char} {n : Nat} (h : codeUnit? a b c d = some n)
      (hleading : isLeading n = false) (htrailing : isTrailing n = false) :
      Writes (Char.ofNat n) ['\\', 'u', a, b, c, d]
  | pair {a b c d e f g h : Char} {m n : Nat} (hm : codeUnit? a b c d = some m)
      (hn : codeUnit? e f g h = some n) (hleading : isLeading m = true)
      (htrailing : isTrailing n = true) :
      Writes (ofPair m n) ['\\', 'u', a, b, c, d, '\\', 'u', e, f, g, h]

inductive WritesAll : List Char → List Char → Prop
  | nil : WritesAll [] []
  | cons {c : Char} {cs s t : List Char} (h : Writes c s) (hs : WritesAll cs t) :
      WritesAll (c :: cs) (s ++ t)

/-- A code unit in front is one of four hexadecimal digits. -/
def WholeUnit (s : List Char) : Prop :=
  ∀ e f g h rest, s = '\\' :: 'u' :: e :: f :: g :: h :: rest → (codeUnit? e f g h).isSome = true

theorem wholeUnit_cons {c : Char} (s : List Char) (h : c ≠ '\\') : WholeUnit (c :: s) := by
  intro _ _ _ _ _ heq
  exact absurd (List.cons.inj heq).1 h

theorem wholeUnit_unit {a b c d : Char} {n : Nat} (h : codeUnit? a b c d = some n)
    (s : List Char) : WholeUnit ('\\' :: 'u' :: a :: b :: c :: d :: s) := by
  intro _ _ _ _ _ heq
  simp only [List.cons.injEq, true_and] at heq
  obtain ⟨rfl, rfl, rfl, rfl, -⟩ := heq
  exact Option.isSome_iff_exists.2 ⟨n, h⟩

theorem letter_ne_u {c letter : Char} (h : characterOf? letter = some c) : letter ≠ 'u' := by
  rintro rfl
  cases h

theorem Writes.wholeUnit {c : Char} {s : List Char} (h : Writes c s) (t : List Char) :
    WholeUnit (s ++ t) := by
  cases h with
  | plain _ hslash _ => exact wholeUnit_cons t hslash
  | letter hletter =>
    intro _ _ _ _ _ heq
    simp only [List.cons_append, List.cons.injEq, true_and] at heq
    exact absurd heq.1 (letter_ne_u hletter)
  | unit hunit => exact wholeUnit_unit hunit t
  | pair hm => exact wholeUnit_unit hm _

theorem WritesAll.wholeUnit {cs s : List Char} (h : WritesAll cs s) (rest : List Char) :
    WholeUnit (s ++ '"' :: rest) := by
  cases h with
  | nil => exact wholeUnit_cons rest (by decide)
  | cons h hs =>
    rw [List.append_assoc]
    exact h.wholeUnit _

/-! ## One step of the reader -/

theorem readText_plain {c : Char} (hquote : c ≠ '"') (hslash : c ≠ '\\') (hc : 0x20 ≤ c.toNat)
    (t : List Char) : readText (c :: t) = TextRead.cons (some c) (readText t) := by
  rw [readText.eq_def]
  split
  · next heq => cases heq
  · next heq => exact absurd (List.cons.inj heq).1 hquote
  · next heq => exact absurd (List.cons.inj heq).1 hslash
  · next heq => exact absurd (List.cons.inj heq).1 hslash
  · next heq => exact absurd (List.cons.inj heq).1 hslash
  · next heq =>
    obtain ⟨rfl, rfl⟩ := List.cons.inj heq
    simp only [Nat.not_lt.2 hc, hslash, or_self, ↓reduceIte]

theorem readText_letter {c letter : Char} (h : characterOf? letter = some c) (t : List Char) :
    readText ('\\' :: letter :: t) = TextRead.cons (some c) (readText t) := by
  have hu := letter_ne_u h
  rw [readText.eq_def]
  split
  · next heq => cases heq
  · next heq => cases heq
  · next heq =>
    simp only [List.cons.injEq, true_and] at heq
    exact absurd heq.1 hu
  · next heq =>
    simp only [List.cons.injEq, true_and] at heq
    exact absurd heq.1 hu
  · next heq =>
    simp only [List.cons.injEq, true_and] at heq
    obtain ⟨rfl, rfl⟩ := heq
    simp only [h]
  · next h heq =>
    simp only [List.cons.injEq] at heq
    obtain ⟨rfl, rfl⟩ := heq
    exact (h _ _ rfl rfl).elim

theorem readText_unit {a b c d : Char} {n : Nat} (hunit : codeUnit? a b c d = some n)
    (hleading : isLeading n = false) (htrailing : isTrailing n = false) {t : List Char}
    (ht : WholeUnit t) : readText ('\\' :: 'u' :: a :: b :: c :: d :: t) =
      TextRead.cons (some (Char.ofNat n)) (readText t) := by
  rw [readText.eq_def]
  split
  · next heq => cases heq
  · next heq => cases heq
  · next heq =>
    simp only [List.cons.injEq, true_and] at heq
    obtain ⟨rfl, rfl, rfl, rfl, rfl⟩ := heq
    obtain ⟨trailing, htrail⟩ := Option.isSome_iff_exists.1 (ht _ _ _ _ _ rfl)
    simp only [hunit, htrail, hleading, htrailing, Bool.false_and, Bool.or_self,
      Bool.false_eq_true, ↓reduceIte]
  · next heq =>
    simp only [List.cons.injEq, true_and] at heq
    obtain ⟨rfl, rfl, rfl, rfl, rfl⟩ := heq
    simp only [hunit, hleading, htrailing, Bool.or_self, Bool.false_eq_true, ↓reduceIte]
  · next hshort heq =>
    simp only [List.cons.injEq, true_and] at heq
    obtain ⟨rfl, rfl⟩ := heq
    exact (hshort _ _ _ _ _ rfl rfl).elim
  · next h heq =>
    simp only [List.cons.injEq] at heq
    obtain ⟨rfl, rfl⟩ := heq
    exact (h _ _ rfl rfl).elim

theorem readText_pair {a b c d e f g h : Char} {m n : Nat} (hm : codeUnit? a b c d = some m)
    (hn : codeUnit? e f g h = some n) (hleading : isLeading m = true)
    (htrailing : isTrailing n = true) (t : List Char) :
    readText ('\\' :: 'u' :: a :: b :: c :: d :: '\\' :: 'u' :: e :: f :: g :: h :: t) =
      TextRead.cons (some (ofPair m n)) (readText t) := by
  rw [readText.eq_def]
  simp only [hm, hn, hleading, htrailing, Bool.and_self, ↓reduceIte]

theorem Writes.readText {c : Char} {s t : List Char} (h : Writes c s) (ht : WholeUnit t) :
    readText (s ++ t) = TextRead.cons (some c) (readText t) := by
  cases h with
  | plain hquote hslash hcontrol => exact readText_plain hquote hslash hcontrol t
  | letter hletter => exact readText_letter hletter t
  | unit hunit hleading htrailing => exact readText_unit hunit hleading htrailing ht
  | pair hm hn hleading htrailing => exact readText_pair hm hn hleading htrailing t

/-! ## Whole texts -/

/-- Characters in any of their ways are read, up to the closing quote. -/
theorem readText_of_writesAll {cs s : List Char} (h : WritesAll cs s) (rest : List Char) :
    readText (s ++ '"' :: rest) = some (some cs, rest) := by
  induction h with
  | nil => rfl
  | cons h hs ih =>
    rw [List.append_assoc, h.readText (hs.wholeUnit rest), ih]
    rfl

/-- A text that is read is a character in one of its ways, in front of such a text. -/
theorem writesAll_of_cons {c : Option Char} {r : TextRead} {s t cs rest : List Char}
    (h : TextRead.cons c r = some (some cs, rest)) (hc : ∀ c', c = some c' → Writes c' s)
    (hr : ∀ cs, r = some (some cs, rest) → ∃ u, t = u ++ '"' :: rest ∧ WritesAll cs u) :
    ∃ u, s ++ t = u ++ '"' :: rest ∧ WritesAll cs u := by
  rcases r with _ | ⟨_ | cs', rest'⟩
  · cases h
  · cases c with
    | none => cases h
    | some c => cases h
  · cases c with
    | none => cases h
    | some c =>
      cases h
      obtain ⟨u, rfl, hu⟩ := hr cs' rfl
      exact ⟨s ++ u, (List.append_assoc s u _).symm, .cons (hc c rfl) hu⟩

theorem writes_unit {a b c d : Char} {n : Nat} (h : codeUnit? a b c d = some n) (c' : Char)
    (hc : (if (isLeading n || isTrailing n) = true then none else some (Char.ofNat n)) = some c') :
    Writes c' ['\\', 'u', a, b, c, d] := by
  split at hc
  · cases hc
  · next hwhole =>
    rw [Bool.not_eq_true, Bool.or_eq_false_iff] at hwhole
    cases hc
    exact .unit h hwhole.1 hwhole.2

/-- What is read up to a closing quote are characters, each in one of its ways. -/
theorem writesAll_of_readText {s cs rest : List Char} (h : readText s = some (some cs, rest)) :
    ∃ t, s = t ++ '"' :: rest ∧ WritesAll cs t := by
  fun_induction readText s generalizing cs with
  | case1 => cases h
  | case2 =>
    cases h
    exact ⟨[], rfl, .nil⟩
  | case3 _ _ _ _ _ _ _ _ _ _ _ hn hm hpair ih =>
    rw [Bool.and_eq_true] at hpair
    refine writesAll_of_cons (s := ['\\', 'u', _, _, _, _, '\\', 'u', _, _, _, _]) h ?_ fun _ => ih
    intro c' hc
    obtain rfl := Option.some.inj hc
    exact .pair hm hn hpair.1 hpair.2
  | case4 _ _ _ _ _ _ _ _ _ _ _ _ hm _ ih =>
    exact writesAll_of_cons (s := ['\\', 'u', _, _, _, _]) h (writes_unit hm) fun _ => ih
  | case5 => cases h
  | case6 _ _ _ _ _ _ _ hunit ih =>
    exact writesAll_of_cons (s := ['\\', 'u', _, _, _, _]) h (writes_unit hunit) fun _ => ih
  | case7 => cases h
  | case8 letter _ _ _ _ hletter ih =>
    refine writesAll_of_cons (s := ['\\', letter]) h ?_ fun _ => ih
    intro c' hc
    obtain rfl := Option.some.inj hc
    exact .letter hletter
  | case9 => cases h
  | case10 => cases h
  | case11 c _ hquote _ _ _ hplain ih =>
    rw [not_or, Nat.not_lt] at hplain
    refine writesAll_of_cons (s := [c]) h ?_ fun _ => ih
    intro c' hc
    obtain rfl := Option.some.inj hc
    exact .plain hquote hplain.2 hplain.1

/-! ## Texts that were written -/

theorem letterOf?_some {c letter : Char} (h : letterOf? c = some letter) :
    characterOf? letter = some c := by
  unfold letterOf? at h
  split at h
  · next hc =>
    obtain rfl := Option.some.inj h
    rcases hc with rfl | rfl <;> decide
  · split at h
    · next hc => cases h; subst hc; decide
    · split at h
      · next hc => cases h; subst hc; decide
      · split at h
        · next hc => cases h; subst hc; decide
        · split at h
          · next hc => cases h; subst hc; decide
          · split at h
            · next hc => cases h; subst hc; decide
            · cases h

theorem letterOf?_none {c : Char} (h : letterOf? c = none) : c ≠ '"' ∧ c ≠ '\\' := by
  constructor
  · rintro rfl
    exact absurd h (by decide)
  · rintro rfl
    exact absurd h (by decide)

/-- A control character is the code unit of its two hexadecimal digits behind two zeros. -/
theorem codeUnit?_control {c : Char} (h : c.toNat < 0x20) :
    codeUnit? '0' '0' (Text.digit (c.toNat / 16)) (Text.digit (c.toNat % 16)) =
      some c.toNat := by
  have hzero : Text.hexValue? '0' = some 0 := by decide
  simp only [codeUnit?, hzero, Text.hexValue?_digit (show c.toNat / 16 < 16 by omega),
    Text.hexValue?_digit (show c.toNat % 16 < 16 by omega), Option.some.injEq]
  omega

theorem writes_control {c : Char} (h : c.toNat < 0x20) :
    Writes c ['\\', 'u', '0', '0', Text.digit (c.toNat / 16), Text.digit (c.toNat % 16)] := by
  have hleading : isLeading c.toNat = false := by
    simp only [isLeading, Bool.and_eq_false_iff, decide_eq_false_iff_not]
    omega
  have htrailing : isTrailing c.toNat = false := by
    simp only [isTrailing, Bool.and_eq_false_iff, decide_eq_false_iff_not]
    omega
  have hunit := Writes.unit (codeUnit?_control h) hleading htrailing
  rw [Char.ofNat_toNat] at hunit
  exact hunit

theorem writes_writeChar (c : Char) : Writes c (writeChar c) := by
  unfold writeChar
  split
  · next letter h => exact .letter (letterOf?_some h)
  · next h =>
    obtain ⟨hquote, hslash⟩ := letterOf?_none h
    split
    · next hc => exact writes_control hc
    · next hc => exact .plain hquote hslash (Nat.not_lt.1 hc)

theorem writesAll_written (s : List Char) : WritesAll s (s.flatMap writeChar) := by
  induction s with
  | nil => exact .nil
  | cons c s ih => exact .cons (writes_writeChar c) ih

theorem writeText_append (s : String) (rest : List Char) :
    writeText s ++ rest = '"' :: (s.toList.flatMap writeChar ++ '"' :: rest) := by
  simp [writeText]

end Enrollment.Json
