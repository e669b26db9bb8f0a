/-!
# Sending again

How often a request is sent again, and how long to wait in between: the wait doubles from one
attempt to the next and never exceeds a limit.

Main statement: doubling with words of 64 bits that stop at the largest one is doubling in the
naturals, cut off at the end (`backoffMillis_eq`).
-/

namespace Enrollment.Client

/-- A length of time. -/
structure Span where
  nanos : Nat
  deriving DecidableEq, Repr

namespace Span

def ofMillis (n : Nat) : Span := ⟨n * 1000000⟩

def ofSeconds (n : Nat) : Span := ⟨n * 1000000000⟩

def millis (s : Span) : Nat := s.nanos / 1000000

def seconds (s : Span) : Nat := s.nanos / 1000000000

def shorter (s t : Span) : Span := ⟨min s.nanos t.nanos⟩

end Span

/-- The largest number of milliseconds that a wait can have. -/
def millisLimit : Nat := UInt64.size - 1

/-- What stops at the largest number of milliseconds. -/
def saturated (n : Nat) : Nat := min n millisLimit

/-- When and how often a request is sent again. -/
structure Retry where
  maxRetries : UInt32 := 0
  initialBackoff : Span := .ofMillis 500
  maxBackoff : Span := .ofSeconds 30
  onRateLimit : Bool := true
  deriving DecidableEq, Repr

namespace Retry

/-- A power of two, stopping at the largest number of milliseconds. -/
def doublings (attempt : Nat) : Nat :=
  if attempt < 64 then Nat.pow 2 attempt else millisLimit

/-- The milliseconds to wait behind an attempt, the first of which is attempt 0. -/
def backoffMillis (r : Retry) (attempt : Nat) : Nat :=
  min (saturated (saturated r.initialBackoff.millis * doublings attempt))
    (saturated r.maxBackoff.millis)

/-- How long to wait behind an attempt. -/
def backoff (r : Retry) (attempt : Nat) : Span :=
  .ofMillis (r.backoffMillis attempt)

theorem saturated_mul_saturated (a b : Nat) :
    saturated (saturated a * saturated b) = saturated (a * b) := by
  unfold saturated
  by_cases ha : a ≤ millisLimit
  · by_cases hb : b ≤ millisLimit
    · rw [Nat.min_eq_left ha, Nat.min_eq_left hb]
    · rw [Nat.min_eq_left ha, Nat.min_eq_right (by omega : millisLimit ≤ b)]
      rcases Nat.eq_zero_or_pos a with rfl | hpos
      · simp
      · have h1 : millisLimit ≤ a * millisLimit := Nat.le_mul_of_pos_left _ hpos
        have h2 : a * millisLimit ≤ a * b := Nat.mul_le_mul_left _ (by omega)
        rw [Nat.min_eq_right h1, Nat.min_eq_right (by omega)]
  · rw [Nat.min_eq_right (by omega : millisLimit ≤ a)]
    rcases Nat.eq_zero_or_pos b with rfl | hpos
    · simp
    · have hb : 1 ≤ min b millisLimit := by
        have : 1 ≤ millisLimit := by decide
        omega
      have h1 : millisLimit ≤ millisLimit * min b millisLimit := Nat.le_mul_of_pos_right _ hb
      have h2 : a ≤ a * b := Nat.le_mul_of_pos_right _ hpos
      rw [Nat.min_eq_right h1, Nat.min_eq_right (by omega)]

theorem doublings_eq (attempt : Nat) : doublings attempt = saturated (Nat.pow 2 attempt) := by
  unfold doublings saturated
  split
  · next h =>
    have : Nat.pow 2 attempt ≤ Nat.pow 2 63 := Nat.pow_le_pow_right (by decide) (by omega)
    rw [Nat.min_eq_left]
    exact Nat.le_trans this (by decide)
  · next h =>
    have : Nat.pow 2 64 ≤ Nat.pow 2 attempt := Nat.pow_le_pow_right (by decide) (by omega)
    rw [Nat.min_eq_right]
    exact Nat.le_trans (by decide) this

theorem backoffMillis_eq (r : Retry) (attempt : Nat) :
    r.backoffMillis attempt =
      min (min (r.initialBackoff.millis * Nat.pow 2 attempt) r.maxBackoff.millis) millisLimit := by
  unfold backoffMillis
  rw [doublings_eq, saturated_mul_saturated]
  unfold saturated
  omega

end Retry

end Enrollment.Client
