import Enrollment.Instant.Calendar
/-!
# Instants

A point of time in UTC with nanoseconds, in the years from -262143 to 262142. A leap second lies
behind the last second of a minute and is kept as that second with a thousand million nanoseconds
more.

Main statements: without leap seconds, instants count like integers (`elapsedSeconds_eq`) and
adding seconds adds to the count (`nanoCount_addSeconds`).
-/

namespace Enrollment

/-- A point of time in UTC. -/
structure Instant where
  /-- Days since the first of January 1970. -/
  day : Int
  second : Nat
  /-- Nanoseconds of the second; from a thousand million on they lie in a leap second. -/
  nano : Nat
  firstDay_le : Calendar.firstDay ≤ day
  le_lastDay : day ≤ Calendar.lastDay
  second_lt : second < 86400
  nano_lt : nano < 2000000000
  leap : 1000000000 ≤ nano → second % 60 = 59
  deriving DecidableEq

namespace Instant

def ofParts? (day : Int) (second nano : Nat) : Option Instant :=
  if h : Calendar.firstDay ≤ day ∧ day ≤ Calendar.lastDay ∧ second < 86400 ∧
      nano < 2000000000 ∧ (1000000000 ≤ nano → second % 60 = 59) then
    some ⟨day, second, nano, h.1, h.2.1, h.2.2.1, h.2.2.2.1, h.2.2.2.2⟩
  else none

/-- Whether the instant lies in a leap second. -/
def isLeap (t : Instant) : Bool :=
  1000000000 ≤ t.nano

/-- Seconds since the first of January 1970; those of a leap second are those before it. -/
def secondCount (t : Instant) : Int :=
  t.day * 86400 + t.second

/-- Nanoseconds since the first of January 1970, as if there were no leap seconds. -/
def nanoCount (t : Instant) : Int :=
  t.secondCount * 1000000000 + t.nano

/-- One more or one less second between two instants of which the one earlier in its day lies in a
leap second. -/
def leapAdjustment (later earlier : Instant) : Int :=
  if later.second > earlier.second ∧ earlier.isLeap then 1
  else if later.second < earlier.second ∧ later.isLeap then -1
  else 0

/-- The instant so many nanoseconds after the first of January 1970, if there is one. -/
def ofNanoCount? (count : Int) : Option Instant :=
  let seconds := count / 1000000000
  ofParts? (seconds / 86400) (seconds % 86400).toNat (count % 1000000000).toNat

/-- Whole seconds from one instant to a later one; zero if it is not later. -/
def elapsedSeconds (now start : Instant) : Nat :=
  ((now.nanoCount - start.nanoCount + leapAdjustment now start * 1000000000) / 1000000000).toNat

/-- The longest span, in seconds, that can be added to an instant. -/
def longestSpan : Nat := 9223372036854775

/-- The instant a number of seconds later; none if the span is too long or there is no such
instant. A span of at least a second leaves a leap second behind. -/
def addSeconds? (t : Instant) (seconds : Nat) : Option Instant :=
  if seconds > longestSpan then none
  else
    let nano := if t.isLeap && 0 < seconds then t.nano - 1000000000 else t.nano
    let count := t.secondCount + seconds
    ofParts? (count / 86400) (count % 86400).toNat nano

theorem ofParts?_eq (t : Instant) : ofParts? t.day t.second t.nano = some t := by
  obtain ⟨day, second, nano, h1, h2, h3, h4, h5⟩ := t
  have h : Calendar.firstDay ≤ day ∧ day ≤ Calendar.lastDay ∧ second < 86400 ∧
      nano < 2000000000 ∧ (1000000000 ≤ nano → second % 60 = 59) := ⟨h1, h2, h3, h4, h5⟩
  simp only [ofParts?]
  exact dif_pos h

theorem eq_of_ofParts? {day : Int} {second nano : Nat} {t : Instant}
    (h : ofParts? day second nano = some t) :
    t.day = day ∧ t.second = second ∧ t.nano = nano := by
  unfold ofParts? at h
  split at h
  · injection h with h
    subst h
    exact ⟨rfl, rfl, rfl⟩
  · simp at h

theorem elapsedSeconds_eq {now start : Instant} (hn : now.isLeap = false)
    (hs : start.isLeap = false) :
    elapsedSeconds now start = ((now.nanoCount - start.nanoCount) / 1000000000).toNat := by
  simp [elapsedSeconds, leapAdjustment, hn, hs]

theorem addSeconds?_zero (t : Instant) : t.addSeconds? 0 = some t := by
  have h := t.second_lt
  have hday : (t.day * 86400 + (t.second : Int)) / 86400 = t.day := by omega
  have hsecond : ((t.day * 86400 + (t.second : Int)) % 86400).toNat = t.second := by omega
  simp only [addSeconds?, longestSpan, secondCount]
  simp only [Nat.not_lt_zero, gt_iff_lt, ↓reduceIte, Nat.lt_irrefl, decide_false, Bool.and_false,
    Bool.false_eq_true, Int.ofNat_zero, Int.add_zero, hday, hsecond, ofParts?_eq]

theorem nanoCount_addSeconds {t u : Instant} {seconds : Nat} (hleap : t.isLeap = false)
    (h : t.addSeconds? seconds = some u) :
    u.nanoCount = t.nanoCount + seconds * 1000000000 := by
  unfold addSeconds? at h
  split at h
  · simp at h
  · obtain ⟨hday, hsecond, hnano⟩ := eq_of_ofParts? h
    simp only [nanoCount, secondCount, hday, hsecond, hnano, hleap, Bool.false_and] at *
    simp only [Bool.false_eq_true, ↓reduceIte]
    omega

end Instant

end Enrollment
