import Enrollment.Proofs.Client.Retrying
/-!
# Doubling waits

How long it is waited behind an attempt is a matter of exact numbers: the first wait, doubled once for
every attempt, cut off at the longest wait and at what a word can hold. In words, a length of time is
turned into milliseconds, doubled and turned back; every step of that fits its words or stops at the
largest one, and where one stops there is nothing left to see of it in the end.

Results:
 1. `backoff_mono`: no wait is shorter than the one before.
 2. `toNat_saturatingPow`: multiplying again and again stops where the power goes beyond a word.
 3. `span_backoffInWords`: in words it is waited just as long.
 4. `backoff_exact`: all of it, for every attempt.
-/

namespace Enrollment.Client

/-! ## In numbers -/

namespace Retry

theorem backoff_eq (r : Retry) (attempt : Nat) :
    r.backoff attempt = .ofMillis
      (min (min (r.initialBackoff.millis * 2 ^ attempt) r.maxBackoff.millis) (2 ^ 64 - 1)) :=
  congrArg Span.ofMillis (r.backoffMillis_eq attempt)

/-- Behind a later attempt it is waited no shorter. -/
theorem backoff_mono (r : Retry) {attempt later : Nat} (h : attempt ≤ later) :
    (r.backoff attempt).nanos ≤ (r.backoff later).nanos := by
  have hdoubled : r.initialBackoff.millis * 2 ^ attempt ≤ r.initialBackoff.millis * 2 ^ later :=
    Nat.mul_le_mul_left _ (Nat.pow_le_pow_right (by decide) h)
  rw [backoff_eq, backoff_eq]
  exact Nat.mul_le_mul_right _ (min_le_min_right _ (min_le_min_right _ hdoubled))

end Retry

/-! ## In words -/

/-- A length of time in words: seconds, and nanoseconds that make less than one. -/
structure Span.Words where
  seconds : UInt64
  nanos : UInt32
  nanos_lt : nanos.toNat < 1000000000
  deriving DecidableEq

def largestWord : UInt64 := 18446744073709551615

/-- A number of 128 bits as a word of 64, or the largest one if it does not fit. -/
def narrowed (n : BitVec 128) : UInt64 :=
  if n.toNat < UInt64.size then UInt64.ofNat n.toNat else largestWord

/-- The product of two words, or the largest word if it is larger. -/
def saturatingMul (a b : UInt64) : UInt64 :=
  if a.toNat * b.toNat < UInt64.size then a * b else largestWord

/-- A word multiplied by itself again and again, with products that stop at the largest word. -/
def saturatingPow (a : UInt64) : Nat → UInt64
  | 0 => 1
  | n + 1 => saturatingMul (saturatingPow a n) a

theorem toNat_largestWord : largestWord.toNat = millisLimit := rfl

theorem saturated_of_lt {n : Nat} (h : n < UInt64.size) : saturated n = n :=
  Nat.min_eq_left (Nat.le_sub_one_of_lt h)

theorem saturated_of_le {n : Nat} (h : UInt64.size ≤ n) : saturated n = millisLimit :=
  Nat.min_eq_right ((Nat.sub_le _ _).trans h)

theorem saturated_toNat (a : UInt64) : saturated a.toNat = a.toNat :=
  saturated_of_lt a.toNat_lt

theorem toNat_narrowed (n : BitVec 128) : (narrowed n).toNat = saturated n.toNat := by
  unfold narrowed
  split
  · next h => rw [saturated_of_lt h, UInt64.toNat_ofNat_of_lt' h]
  · next h => rw [saturated_of_le (not_lt.1 h), toNat_largestWord]

theorem toNat_saturatingMul (a b : UInt64) :
    (saturatingMul a b).toNat = saturated (a.toNat * b.toNat) := by
  unfold saturatingMul
  split
  · next h => rw [saturated_of_lt h, UInt64.toNat_mul, Nat.mod_eq_of_lt h]
  · next h => rw [saturated_of_le (not_lt.1 h), toNat_largestWord]

theorem toNat_saturatingPow (a : UInt64) (n : Nat) :
    (saturatingPow a n).toNat = saturated (a.toNat ^ n) := by
  induction n with
  | zero => rfl
  | succ n ih =>
    -- What stopped goes beyond a word after every further multiplication too.
    calc (saturatingPow a (n + 1)).toNat
        = saturated (saturated (a.toNat ^ n) * a.toNat) := by
          rw [saturatingPow, toNat_saturatingMul, ih]
      _ = saturated (saturated (a.toNat ^ n) * saturated a.toNat) := by rw [saturated_toNat]
      _ = saturated (a.toNat ^ (n + 1)) := by rw [Retry.saturated_mul_saturated, Nat.pow_succ]

namespace Span.Words

def span (w : Words) : Span :=
  ⟨w.seconds.toNat * 1000000000 + w.nanos.toNat⟩

def millis (w : Words) : BitVec 128 :=
  BitVec.ofNat 128 w.seconds.toNat * 1000 + BitVec.ofNat 128 (w.nanos / 1000000).toNat

def ofMillis (n : UInt64) : Words where
  seconds := n / 1000
  nanos := (n % 1000).toUInt32 * 1000000
  nanos_lt := by
    have h : (n % 1000).toNat < 1000 := by
      rw [UInt64.toNat_mod]
      exact Nat.mod_lt _ (by decide)
    rw [UInt32.toNat_mul, UInt64.toNat_toUInt32, Nat.mod_eq_of_lt (h.trans (by decide))]
    exact (Nat.mod_le _ _).trans_lt (Nat.mul_lt_mul_of_pos_right h (by decide))

/-- No millisecond is lost: 128 bits are more than enough. -/
theorem toNat_millis (w : Words) : w.millis.toNat = w.span.millis := by
  have hseconds := w.seconds.toNat_lt
  have hnanos := w.nanos_lt
  unfold millis span Span.millis
  rw [BitVec.toNat_add, BitVec.toNat_mul, BitVec.toNat_ofNat, BitVec.toNat_ofNat, UInt32.toNat_div]
  simp only [BitVec.reduceToNat, UInt32.reduceToNat]
  omega

theorem span_ofMillis (n : UInt64) : (ofMillis n).span = .ofMillis n.toNat := by
  have h := Nat.div_add_mod n.toNat 1000
  have hlt : n.toNat % 1000 < 1000 := Nat.mod_lt _ (by decide)
  unfold ofMillis span Span.ofMillis
  rw [UInt64.toNat_div, UInt32.toNat_mul, UInt64.toNat_toUInt32, UInt64.toNat_mod]
  simp only [UInt32.reduceToNat, UInt64.reduceToNat, Span.mk.injEq]
  omega

end Span.Words

/-- How long to wait behind an attempt, worked out in words. -/
def backoffInWords (initial longest : Span.Words) (attempt : UInt32) : Span.Words :=
  .ofMillis (min (saturatingMul (narrowed initial.millis) (saturatingPow 2 attempt.toNat))
    (narrowed longest.millis))

namespace Retry

/-- In words it is waited just as long. -/
theorem span_backoffInWords {r : Retry} {initial longest : Span.Words}
    (hinitial : r.initialBackoff = initial.span) (hlongest : r.maxBackoff = longest.span)
    (attempt : UInt32) : (backoffInWords initial longest attempt).span = r.backoff attempt.toNat := by
  have hproduct : (saturatingMul (narrowed initial.millis) (saturatingPow 2 attempt.toNat)).toNat =
      saturated (saturated r.initialBackoff.millis * doublings attempt.toNat) := by
    rw [toNat_saturatingMul, toNat_narrowed, toNat_saturatingPow, Span.Words.toNat_millis, hinitial,
      doublings_eq]
    rfl
  have hlimit : (narrowed longest.millis).toNat = saturated r.maxBackoff.millis := by
    rw [toNat_narrowed, Span.Words.toNat_millis, hlongest]
  unfold backoffInWords backoff backoffMillis
  rw [Span.Words.span_ofMillis, ← hproduct, ← hlimit, UInt64.toNat_min]

/-- Behind every attempt it is waited for the first wait doubled so often, in whole milliseconds, or for
the longest one, or as long as a word can tell. That is never more than the longest wait and never less
than behind an earlier attempt, and in words it comes out the same. -/
theorem backoff_exact (r : Retry) {initial longest : Span.Words}
    (hinitial : r.initialBackoff = initial.span) (hlongest : r.maxBackoff = longest.span)
    (attempt : UInt32) :
    r.backoff attempt.toNat = .ofMillis
        (min (min (r.initialBackoff.millis * 2 ^ attempt.toNat) r.maxBackoff.millis) (2 ^ 64 - 1)) ∧
      (backoffInWords initial longest attempt).span = r.backoff attempt.toNat ∧
      (r.backoff attempt.toNat).nanos ≤ r.maxBackoff.nanos ∧
      ∀ later : UInt32, attempt ≤ later →
        (r.backoff attempt.toNat).nanos ≤ (r.backoff later.toNat).nanos :=
  ⟨r.backoff_eq attempt.toNat, span_backoffInWords hinitial hlongest attempt,
    r.backoff_le attempt.toNat, fun _ hlater => r.backoff_mono (UInt32.le_iff_toNat_le.1 hlater)⟩

end Retry

def millisecond : Span.Words := ⟨0, 1000000, by decide⟩

def longestTime : Span.Words := ⟨largestWord, 999999999, by decide⟩

/-- Waits of a millisecond at first, and then with hardly a limit. -/
def hardlyLimited : Retry where
  initialBackoff := millisecond.span
  maxBackoff := longestTime.span

/-- Behind attempt 64 the power, the product and the limit all go beyond a word; the wait is the longest
that a word can tell, and it stays that. -/
theorem hardlyLimited_backoff :
    hardlyLimited.backoff 64 = .ofMillis 18446744073709551615 ∧
      (backoffInWords millisecond longestTime 64).span = .ofMillis 18446744073709551615 ∧
      18446744073709551615000000 ≤ (hardlyLimited.backoff 4294967295).nanos := by
  have hinitial : hardlyLimited.initialBackoff = millisecond.span := rfl
  have hlongest : hardlyLimited.maxBackoff = longestTime.span := rfl
  obtain ⟨heq, hwords, -, hmono⟩ := hardlyLimited.backoff_exact hinitial hlongest 64
  have hwait : hardlyLimited.backoff 64 = .ofMillis 18446744073709551615 :=
    heq.trans (by decide +kernel)
  have hlater := hmono 4294967295 (by decide)
  refine ⟨hwait, hwords.trans hwait, le_trans ?_ hlater⟩
  rw [show (64 : UInt32).toNat = 64 from rfl, hwait]
  decide

end Enrollment.Client
