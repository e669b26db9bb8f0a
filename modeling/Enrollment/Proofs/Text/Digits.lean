import Enrollment.Text.Digits
/-!
# Runs of digits

What a run of digits reads as, how long a padded number is, and where a run of digits ends.

Results:
 1. `ofDecimal?_toDecimalPadded`: zeros in front change nothing.
 2. `ofDecimal?_eq_some_iff`: the value of a run of digits.
-/

namespace Enrollment.Text

theorem decimalValue?_zero : decimalValue? '0' = some 0 := by decide

theorem ofBase?_replicate_zero (k : Nat) (s : List Char) :
    ofBase? 10 decimalValue? 0 (List.replicate k '0' ++ s) = ofBase? 10 decimalValue? 0 s := by
  induction k with
  | zero => rfl
  | succ k ih => simpa [List.replicate_succ, ofBase?, decimalValue?_zero] using ih

theorem toDecimalPadded_ne_nil (width n : Nat) : toDecimalPadded width n ≠ [] := by
  intro h
  obtain ⟨-, h⟩ := List.append_eq_nil_iff.1 h
  exact toBase_ne_nil 10 n h

theorem ofDecimal?_toDecimalPadded (width n : Nat) :
    ofDecimal? (toDecimalPadded width n) = some n := by
  have hne : (toDecimalPadded width n).isEmpty = false := by
    simpa using toDecimalPadded_ne_nil width n
  rw [ofDecimal?, hne, toDecimalPadded, ofBase?_replicate_zero]
  exact ofBase?_toBase (by omega) (fun n h => decimalValue?_digit h) n

theorem isDecimal_of_mem_toDecimalPadded {width n : Nat} {c : Char}
    (h : c ∈ toDecimalPadded width n) : isDecimal c = true := by
  rcases List.mem_append.1 h with h | h
  · rw [List.eq_of_mem_replicate h]
    rfl
  · exact isDecimal_of_mem_toDecimal h

theorem length_toDecimal_le {width n : Nat} (hwidth : 0 < width) (h : n < Nat.pow 10 width) :
    (toDecimal n).length ≤ width := by
  unfold toDecimal
  induction width generalizing n with
  | zero => omega
  | succ width ih =>
    rw [toBase_eq]
    split
    · simp
    · next hn =>
      have hwidth : 0 < width := by
        rcases Nat.eq_zero_or_pos width with rfl | hpos
        · have : n < 10 := h
          omega
        · exact hpos
      have hdiv : n / 10 < Nat.pow 10 width := by
        have : n < Nat.pow 10 width * 10 := h
        omega
      have := ih hwidth hdiv
      simp only [List.length_append, List.length_singleton]
      omega

theorem length_toDecimalPadded {width n : Nat} (hwidth : 0 < width) (h : n < Nat.pow 10 width) :
    (toDecimalPadded width n).length = width := by
  have := length_toDecimal_le hwidth h
  simp only [toDecimalPadded, List.length_append, List.length_replicate]
  omega

/-! ## Values and ends of runs -/

theorem decimalValue?_eq_some_iff {c : Char} {v : Nat} :
    decimalValue? c = some v ↔ ('0' ≤ c ∧ c ≤ '9') ∧ c.toNat - 48 = v := by
  unfold decimalValue?
  split
  · next hc => simp only [hc, and_self, true_and, Option.some.injEq]
  · next hc => simp only [hc, false_and, reduceCtorEq]

theorem ofBase?_decimal_eq_some_iff {s : List Char} {acc n : Nat} :
    ofBase? 10 decimalValue? acc s = some n ↔ (∀ c ∈ s, '0' ≤ c ∧ c ≤ '9') ∧
      s.foldl (fun acc c => acc * 10 + (c.toNat - 48)) acc = n := by
  induction s generalizing acc with
  | nil => simp only [ofBase?, Option.some.injEq, List.not_mem_nil, false_imp_iff, implies_true,
      true_and, List.foldl_nil]
  | cons c s ih =>
    rw [ofBase?, List.foldl_cons, List.forall_mem_cons]
    by_cases hc : '0' ≤ c ∧ c ≤ '9'
    · have hle : c.toNat ≤ 57 := UInt32.le_iff_toNat_le.1 hc.2
      have hvalue : decimalValue? c = some (c.toNat - 48) := decimalValue?_eq_some_iff.2 ⟨hc, rfl⟩
      simp only [hvalue, show c.toNat - 48 < 10 by omega, ↓reduceIte, ih, hc, true_and, and_self]
    · have hnone : decimalValue? c = none := if_neg hc
      simp only [hnone, reduceCtorEq, hc, false_and]

/-- The value of a run of digits is the sum of theirs, each ten times as much as the next. -/
theorem ofDecimal?_eq_some_iff {s : List Char} {n : Nat} :
    ofDecimal? s = some n ↔ s ≠ [] ∧ (∀ c ∈ s, '0' ≤ c ∧ c ≤ '9') ∧
      s.foldl (fun acc c => acc * 10 + (c.toNat - 48)) 0 = n := by
  unfold ofDecimal?
  cases s with
  | nil => simp
  | cons c s =>
    rw [List.isEmpty_cons, if_neg Bool.false_ne_true, ofBase?_decimal_eq_some_iff]
    simp only [ne_eq, reduceCtorEq, not_false_eq_true, true_and]

def NoDigit (s : List Char) : Prop :=
  ∀ c ∈ s.head?, isDecimal c = false

theorem noDigit_cons {c : Char} (s : List Char) (h : isDecimal c = false) : NoDigit (c :: s) := by
  intro c' hc
  simp only [List.head?_cons, Option.mem_def, Option.some.injEq] at hc
  exact hc ▸ h

theorem spanDecimal_of_run {digits rest : List Char} (h : ∀ c ∈ digits, isDecimal c = true)
    (hrest : NoDigit rest) : spanDecimal (digits ++ rest) = (digits, rest) := by
  unfold spanDecimal
  rw [List.takeWhile_append_of_pos h, List.dropWhile_append_of_pos h]
  cases rest with
  | nil => simp
  | cons c rest =>
    have hc : isDecimal c = false := hrest c rfl
    simp [hc]

end Enrollment.Text
