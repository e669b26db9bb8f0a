import Enrollment.Instant.Text
import Enrollment.Proofs.Instant.Calendar
import Enrollment.Proofs.Text.Digits
/-!
# A written instant reads back

The reader of instants is looser than their writer. Each lemma says what one piece of the reader
makes of the piece that was written for it, whatever follows.

Results:
1. `scanDate_dateText`, `scanTime_timeText`: the date and the time of day read back.
2. `parse?_text`: an instant reads back from its text, leap seconds and years of more than four
   digits included.
-/

namespace Enrollment.Instant

open Text (isBlank trimStart trimStart_of_head isDecimal NoDigit toDecimalPadded)

/-! ## Numbers and separators -/

theorem isBlank_of_isDecimal {c : Char} (h : isDecimal c = true) : isBlank c = false := by
  simp only [isDecimal, Text.decimalValue?, Option.isSome_ite] at h
  obtain ⟨h0, h9⟩ := h
  have h0 : 48 ≤ c.toNat := h0
  have h9 : c.toNat ≤ 57 := h9
  simp only [isBlank, Bool.or_eq_false_iff, Bool.and_eq_false_iff, decide_eq_false_iff_not,
    beq_eq_false_iff_ne, ne_eq]
  omega

theorem scanNumber_run {width n : Nat} {digits rest : List Char}
    (hdigits : ∀ c ∈ digits, isDecimal c = true) (hvalue : Text.ofDecimal? digits = some n)
    (hwidth : digits.length = width ∨ (digits.length ≤ width ∧ NoDigit rest)) :
    scanNumber width (digits ++ rest) = some (n, rest) := by
  have hkept : ((digits ++ rest).takeWhile isDecimal).take width = digits := by
    rcases hwidth with rfl | ⟨hle, hrest⟩
    · rw [List.takeWhile_append_of_pos hdigits, List.take_left]
    · have hspan := congrArg Prod.fst (Text.spanDecimal_of_run hdigits hrest)
      simp only [Text.spanDecimal] at hspan
      rw [hspan, List.take_of_length_le hle]
  simp only [scanNumber, hkept, hvalue, List.drop_left]

theorem scanNumber_padded (width n : Nat) (hwidth : 0 < width) (h : n < Nat.pow 10 width)
    (rest : List Char) : scanNumber width (toDecimalPadded width n ++ rest) = some (n, rest) :=
  scanNumber_run (fun _ => Text.isDecimal_of_mem_toDecimalPadded)
    (Text.ofDecimal?_toDecimalPadded width n) (.inl (Text.length_toDecimalPadded hwidth h))

/-- A padded number starts with a digit, so nothing is trimmed off in front of it. -/
theorem padded_eq_cons (width n : Nat) (rest : List Char) :
    ∃ c s, toDecimalPadded width n ++ rest = c :: s ∧ isDecimal c = true := by
  cases h : toDecimalPadded width n with
  | nil => exact absurd h (Text.toDecimalPadded_ne_nil width n)
  | cons c s =>
    refine ⟨c, s ++ rest, rfl, ?_⟩
    exact Text.isDecimal_of_mem_toDecimalPadded (h ▸ List.mem_cons_self)

theorem trimStart_padded (width n : Nat) (rest : List Char) :
    trimStart (toDecimalPadded width n ++ rest) = toDecimalPadded width n ++ rest := by
  obtain ⟨c, s, hcons, hc⟩ := padded_eq_cons width n rest
  rw [hcons, trimStart_of_head (isBlank_of_isDecimal hc)]

theorem scanPadded_padded (width n : Nat) (hwidth : 0 < width) (h : n < Nat.pow 10 width)
    (rest : List Char) : scanPadded width (toDecimalPadded width n ++ rest) = some (n, rest) := by
  rw [scanPadded, trimStart_padded, scanNumber_padded width n hwidth h]

theorem scanSeparator_cons {c : Char} (h : isBlank c = false) (rest : List Char) :
    scanSeparator c (c :: rest) = some rest := by
  simp [scanSeparator, trimStart_of_head h]

/-! ## The date -/

theorem scanYear_yearText (year : Int) (rest : List Char) (hrest : NoDigit rest) :
    scanYear (yearText year ++ rest) = some (year, rest) := by
  unfold yearText
  split
  · next h =>
    obtain ⟨c, s, hcons, hc⟩ := padded_eq_cons 4 year.toNat rest
    have hminus : c ≠ '-' := by rintro rfl; exact absurd hc (by decide)
    have hplus : c ≠ '+' := by rintro rfl; exact absurd hc (by decide)
    have hpow : Nat.pow 10 4 = 10000 := rfl
    have hnumber := scanNumber_padded 4 year.toNat (by omega) (by omega) rest
    have hyear : ((year.toNat : Nat) : Int) = year := by omega
    unfold scanYear
    rw [trimStart_padded, hcons]
    rw [hcons] at hnumber
    split
    · next heq => exact absurd (List.cons.inj heq).1 hminus
    · next heq => exact absurd (List.cons.inj heq).1 hplus
    · simp only [hnumber, Option.map_some, hyear]
  · next h =>
    have hnumber : scanNumber (toDecimalPadded 4 year.natAbs ++ rest).length
        (toDecimalPadded 4 year.natAbs ++ rest) = some (year.natAbs, rest) :=
      scanNumber_run (fun _ => Text.isDecimal_of_mem_toDecimalPadded)
        (Text.ofDecimal?_toDecimalPadded 4 year.natAbs)
        (.inr ⟨by simp [List.length_append], hrest⟩)
    by_cases hneg : year < 0
    · have hyear : -((year.natAbs : Nat) : Int) = year := by omega
      simp only [hneg, ↓reduceIte, List.cons_append, scanYear,
        trimStart_of_head (show isBlank '-' = false by decide), hnumber, Option.map_some, hyear]
    · have hyear : ((year.natAbs : Nat) : Int) = year := by omega
      simp only [hneg, ↓reduceIte, List.cons_append, scanYear,
        trimStart_of_head (show isBlank '+' = false by decide), hnumber, Option.map_some, hyear]

theorem monthLength_le (year : Int) (month : Nat) : Calendar.monthLength year month ≤ 31 := by
  unfold Calendar.monthLength
  split
  · split <;> omega
  · omega
  · omega
  · omega
  · omega
  · omega

theorem scanDate_dateText (t : Instant) (rest : List Char) :
    scanDate (t.dateText ++ 'T' :: rest) = some (t.day, 'T' :: rest) := by
  have hvalid := Calendar.isValid_dateOf t.day
  obtain ⟨hfirst, hlast⟩ := Calendar.year_dateOf t.firstDay_le t.le_lastDay
  have hday := Calendar.dayNumber_dateOf t.day
  unfold dateText
  generalize Calendar.dateOf t.day = d at *
  have hparts := hvalid
  simp only [Calendar.Date.isValid, Bool.and_eq_true, decide_eq_true_eq] at hparts
  obtain ⟨⟨⟨hm1, hm12⟩, hd1⟩, hdl⟩ := hparts
  have hd31 := monthLength_le d.year d.month
  have hdash : isBlank '-' = false := by decide
  have hnodigit : ∀ s, NoDigit ('-' :: s) := fun s => Text.noDigit_cons s (by decide)
  have hpow : Nat.pow 10 2 = 100 := rfl
  have hmonth := fun s => scanPadded_padded 2 d.month (by omega) (by omega) s
  have hdays := fun s => scanPadded_padded 2 d.day (by omega) (by omega) s
  simp only [scanDate, List.append_assoc, List.cons_append]
  rw [scanYear_yearText _ _ (hnodigit _)]
  simp [scanSeparator_cons hdash, hmonth, hdays, hvalid, hfirst, hlast, hday]

/-! ## The time of day -/

theorem scanFraction_run {width n : Nat} {rest : List Char} (hpos : 0 < width) (hwidth : width ≤ 9)
    (h : n < Nat.pow 10 width) (hrest : NoDigit rest) :
    scanFraction ('.' :: toDecimalPadded width n ++ rest) =
      some (n * Nat.pow 10 (9 - width), rest) := by
  have hdigits : ∀ c ∈ toDecimalPadded width n, isDecimal c = true :=
    fun _ => Text.isDecimal_of_mem_toDecimalPadded
  have hlength := Text.length_toDecimalPadded hpos h
  have hkept : (toDecimalPadded width n).take 9 = toDecimalPadded width n :=
    List.take_of_length_le (by omega)
  simp only [List.cons_append, scanFraction, Text.spanDecimal_of_run hdigits hrest, hkept,
    Text.ofDecimal?_toDecimalPadded, Option.map_some, hlength]

theorem scanFraction_fractionText {nano : Nat} (h : nano < 1000000000) (rest : List Char) :
    scanFraction (fractionText nano ++ 'Z' :: rest) = some (nano, 'Z' :: rest) := by
  have hrest : NoDigit ('Z' :: rest) := Text.noDigit_cons rest (by decide)
  have hpow : Nat.pow 10 6 = 1000000 ∧ Nat.pow 10 3 = 1000 ∧ Nat.pow 10 0 = 1 := by decide
  have hpow9 : Nat.pow 10 9 = 1000000000 := by decide
  unfold fractionText
  split
  · next hzero => rw [hzero]; rfl
  · split
    · next hmilli =>
      rw [scanFraction_run (by omega) (by omega) (by omega) hrest]
      simp only [Nat.reduceSub, hpow, Option.some.injEq, Prod.mk.injEq, and_true]
      omega
    · split
      · next hmicro =>
        rw [scanFraction_run (by omega) (by omega) (by omega) hrest]
        simp only [Nat.reduceSub, hpow, Option.some.injEq, Prod.mk.injEq, and_true]
        omega
      · rw [scanFraction_run (by omega) (by omega) (by omega) hrest]
        simp only [Nat.reduceSub, hpow, Nat.mul_one]

/-- What the reader of a time makes of an hour, a minute, a second and a fraction. -/
def timeOf? (hour minute second nano : Nat) : Option (Nat × Nat) :=
  if hour < 24 ∧ minute < 60 ∧ second < 60 then some (hour * 3600 + minute * 60 + second, nano)
  else if hour < 24 ∧ minute < 60 ∧ second = 60 then
    some (hour * 3600 + minute * 60 + 59, nano + 1000000000)
  else none

theorem scanTime_padded {hour minute second nano : Nat} (hhour : hour < 100)
    (hminute : minute < 100) (hsecond : second < 100) (hnano : nano < 1000000000)
    (rest : List Char) :
    scanTime (toDecimalPadded 2 hour ++ ':' :: toDecimalPadded 2 minute ++
      ':' :: toDecimalPadded 2 second ++ fractionText nano ++ 'Z' :: rest) =
      (timeOf? hour minute second nano).map fun time => (time, 'Z' :: rest) := by
  have hcolon : isBlank ':' = false := by decide
  have hnumber : ∀ n < 100, ∀ s, scanPadded 2 (toDecimalPadded 2 n ++ s) = some (n, s) :=
    fun n hn s => scanPadded_padded 2 n (by omega) hn s
  have hfraction := scanFraction_fractionText hnano rest
  simp only [scanTime, List.append_assoc, List.cons_append, hnumber _ hhour, hnumber _ hminute,
    hnumber _ hsecond, scanSeparator_cons hcolon, hfraction, Option.bind_eq_bind,
    Option.bind_some, timeOf?]
  split
  · rfl
  · split
    · rfl
    · rfl

theorem timeOf?_whole {second nano : Nat} (h : second < 86400) :
    timeOf? (second / 3600) (second / 60 % 60) (second % 60) nano = some (second, nano) := by
  have hsum : second / 3600 * 3600 + second / 60 % 60 * 60 + second % 60 = second := by omega
  rw [timeOf?, if_pos (by omega), hsum]

theorem timeOf?_leap {second nano : Nat} (h : second < 86400) (h59 : second % 60 = 59) :
    timeOf? (second / 3600) (second / 60 % 60) 60 nano = some (second, nano + 1000000000) := by
  have hsum : second / 3600 * 3600 + second / 60 % 60 * 60 + 59 = second := by omega
  rw [timeOf?, if_neg (by omega), if_pos (by omega), hsum]

/-- The time of day of an instant with its fraction. A leap second is told by the sixtieth second
of a minute. -/
theorem scanTime_timeText (t : Instant) (rest : List Char) :
    scanTime (t.timeText ++ 'Z' :: rest) = some ((t.second, t.nano), 'Z' :: rest) := by
  have hlt := t.second_lt
  have hnano := t.nano_lt
  by_cases hleap : t.isLeap = true
  · have hbig : 1000000000 ≤ t.nano := by simpa [isLeap] using hleap
    have h59 := t.leap hbig
    have hback : t.nano - 1000000000 + 1000000000 = t.nano := by omega
    simp only [timeText, hleap, h59, ↓reduceIte, Nat.reduceAdd]
    rw [scanTime_padded (by omega) (by omega) (by omega) (by omega), timeOf?_leap hlt h59, hback]
    rfl
  · have hsmall : t.nano < 1000000000 := by simpa [isLeap] using hleap
    simp only [timeText, hleap, Bool.false_eq_true, ↓reduceIte, Nat.add_zero]
    rw [scanTime_padded (by omega) (by omega) (by omega) hsmall, timeOf?_whole hlt]
    rfl

/-! ## The instant -/

theorem parse?_text (t : Instant) : parse? t.text = some t := by
  have hlt := t.second_lt
  have hdate := scanDate_dateText t (t.timeText ++ ['Z'])
  have htime := scanTime_timeText t []
  have htrim : trimStart ['Z'] = ['Z'] := trimStart_of_head (by decide)
  have hcount : (t.day * 86400 + (t.second : Int) - 0) / 86400 = t.day := by omega
  have hsecond : ((t.day * 86400 + (t.second : Int) - 0) % 86400).toNat = t.second := by omega
  unfold parse? text
  rw [String.toList_ofList, List.append_assoc, List.cons_append]
  simp only [hdate, htime, htrim, Option.bind_eq_bind, Option.bind_some, scanOffset, List.all_nil,
    ↓reduceIte, hcount, hsecond, ofParts?_eq]

end Enrollment.Instant
