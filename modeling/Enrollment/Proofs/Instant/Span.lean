import Enrollment.Instant.Basic
/-!
# Spans between instants

The calendar is short compared with the numbers that seconds are counted in: the span between any two
instants can be held, and so can what is added to one. Without leap seconds, instants are numbers: there
is one for every count of nanoseconds, and adding seconds adds to the count as long as the calendar goes on.

Results:
 1. `natAbs_span_le`: no span between instants is longer than one that can be added.
 2. `exists_of_between`: there are no gaps between instants.
 3. `addSeconds?_eq_some_iff`: which instant lies a number of seconds later.
-/

namespace Enrollment.Instant

variable {s t : Instant}

/-- Nanoseconds from one instant to another, leap seconds in between included. -/
def span (now start : Instant) : Int :=
  now.nanoCount - start.nanoCount + leapAdjustment now start * 1000000000

theorem nano_lt_of_not_leap (h : t.isLeap = false) : t.nano < 1000000000 := by
  simpa [isLeap] using h

/-- The seconds of the calendar. -/
theorem secondCount_bounds (t : Instant) :
    -8334601228800 ≤ t.secondCount ∧ t.secondCount < 8210266876800 := by
  have hfirst := t.firstDay_le
  have hlast := t.le_lastDay
  have hsecond := t.second_lt
  simp only [Calendar.firstDay, Calendar.lastDay] at hfirst hlast
  unfold secondCount
  omega

theorem natAbs_leapAdjustment_le (now start : Instant) : (leapAdjustment now start).natAbs ≤ 1 := by
  unfold leapAdjustment
  split
  · decide
  · split <;> decide

theorem natAbs_span_le (now start : Instant) :
    (now.span start).natAbs ≤ longestSpan * 1000000000 := by
  have hnow := now.secondCount_bounds
  have hstart := start.secondCount_bounds
  have hnano := now.nano_lt
  have hnano' := start.nano_lt
  have hleap := natAbs_leapAdjustment_le now start
  unfold span nanoCount longestSpan
  omega

/-- A count of nanoseconds is one of seconds and one of nanoseconds. -/
theorem counts_of_nanoCount {seconds : Int} (hs : s.isLeap = false) (ht : t.isLeap = false)
    (h : t.nanoCount = s.nanoCount + seconds * 1000000000) :
    t.secondCount = s.secondCount + seconds ∧ t.nano = s.nano := by
  have hnano := nano_lt_of_not_leap hs
  have hnano' := nano_lt_of_not_leap ht
  unfold nanoCount at h
  omega

/-- A count of seconds is one of days and one of seconds since midnight. -/
theorem parts_of_secondCount {count : Int} (h : t.secondCount = count) :
    t.day = count / 86400 ∧ t.second = (count % 86400).toNat := by
  have hsecond := t.second_lt
  unfold secondCount at h
  omega

/-- Between two instants, every count of nanoseconds is one of an instant. -/
theorem exists_of_between {count : Int} (ht : t.isLeap = false) (hs : s.nanoCount ≤ count)
    (hcount : count ≤ t.nanoCount) : ∃ u : Instant, u.isLeap = false ∧ u.nanoCount = count := by
  have hfirst := s.firstDay_le
  have hlast := t.le_lastDay
  have hsecond := t.second_lt
  have hnano := nano_lt_of_not_leap ht
  unfold nanoCount secondCount at hs hcount
  refine ⟨⟨count / 86400000000000, (count / 1000000000 % 86400).toNat, (count % 1000000000).toNat,
    by omega, by omega, by omega, by omega, by omega⟩, ?_, ?_⟩
  · simp only [isLeap, decide_eq_false_iff_not]
    omega
  · simp only [nanoCount, secondCount]
    omega

/-- The instant a number of seconds later is the one with so many more in its count, if there is such
an instant. -/
theorem addSeconds?_eq_some_iff (hs : s.isLeap = false) {seconds : Nat} :
    s.addSeconds? seconds = some t ↔
      t.isLeap = false ∧ t.nanoCount = s.nanoCount + seconds * 1000000000 := by
  have hkept : (if (s.isLeap && 0 < seconds) = true then s.nano - 1000000000 else s.nano) = s.nano := by
    rw [hs]
    rfl
  constructor
  · intro h
    refine ⟨?_, nanoCount_addSeconds hs h⟩
    unfold addSeconds? at h
    split at h
    · cases h
    · obtain ⟨-, -, hnano⟩ := eq_of_ofParts? h
      rw [hkept] at hnano
      rw [isLeap, hnano]
      exact hs
  · rintro ⟨ht, hcount⟩
    obtain ⟨hseconds, hnano⟩ := counts_of_nanoCount hs ht hcount
    obtain ⟨hday, hsecond⟩ := parts_of_secondCount hseconds
    -- The calendar ends long before the longest span.
    have hshort : ¬ seconds > longestSpan := by
      have hbefore := s.secondCount_bounds
      have hbehind := t.secondCount_bounds
      unfold longestSpan
      omega
    unfold addSeconds?
    rw [if_neg hshort, hkept]
    dsimp only
    rw [← hday, ← hsecond, ← hnano, ofParts?_eq]

end Enrollment.Instant
