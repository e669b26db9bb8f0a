import Enrollment.Node.Entry
import Enrollment.Proofs.Instant.Span
import Mathlib.Order.Bounds.Basic
/-!
# Cooldowns

A cooldown that started at an instant is over so many seconds later, whether the calendar goes on that long
or not. What is left of it is worked out in whole seconds, and the instant from which the node can be
activated on the calendar; both follow from where its end lies in the count of nanoseconds.

Results:
 1. `cooldownRemaining_le_iff`: when no more than so many seconds are left.
 2. `isLeast_cooldownRemaining`: behind its start, the fewest seconds that lead to its end are left.
 3. `cooldownRemaining_of_passed`, `cooldownRemaining_pos_of_early`: what is left at one instant says when
    nothing is left, to the second.
 4. `activatableAt?_eq_some_iff`: the node can be activated from the instant of the end, if there is one.
 5. `remainingInWords?_eq`, `endInWords?_eq`: neither goes beyond what words of 64 bits hold.
-/

namespace Enrollment.Node.Entry

open Instant (longestSpan natAbs_span_le secondCount_bounds)

variable {e : Entry} {s t now later : Instant}

/-- The end of a cooldown that started at an instant, in the count of nanoseconds. -/
def cooldownEnd (e : Entry) (start : Instant) : Int :=
  start.nanoCount + e.cooldown.toNat * 1000000000

/-! ## What is left -/

theorem cooldownRemaining_of_start (hstart : e.cooldownStart = some s) (now : Instant) :
    e.cooldownRemaining now = e.cooldown.toNat - now.elapsedSeconds s := by
  unfold cooldownRemaining
  rw [hstart]

/-- No more than so many seconds are left if that is all of the cooldown, or if they lead to its end. -/
theorem cooldownRemaining_le_iff (hstart : e.cooldownStart = some s) (hs : s.isLeap = false)
    (hnow : now.isLeap = false) {r : Nat} :
    e.cooldownRemaining now ≤ r ↔
      e.cooldown.toNat ≤ r ∨ e.cooldownEnd s ≤ now.nanoCount + r * 1000000000 := by
  rw [cooldownRemaining_of_start hstart, Instant.elapsedSeconds_eq hnow hs]
  unfold cooldownEnd
  omega

theorem cooldownRemaining_anti (hstart : e.cooldownStart = some s) (hs : s.isLeap = false)
    (hnow : now.isLeap = false) (hlater : later.isLeap = false) (h : now.nanoCount ≤ later.nanoCount) :
    e.cooldownRemaining later ≤ e.cooldownRemaining now := by
  rw [cooldownRemaining_le_iff hstart hs hlater]
  rcases (cooldownRemaining_le_iff hstart hs hnow).1 le_rfl with hall | hend
  · exact .inl hall
  · exact .inr (hend.trans (by omega))

/-- In front of its start, all of a cooldown is left. -/
theorem cooldownRemaining_of_lt (hstart : e.cooldownStart = some s) (hs : s.isLeap = false)
    (hnow : now.isLeap = false) (h : now.nanoCount < s.nanoCount) :
    e.cooldownRemaining now = e.cooldown.toNat := by
  refine le_antisymm (e.cooldownRemaining_le now) ?_
  rcases (cooldownRemaining_le_iff hstart hs hnow).1 le_rfl with hall | hend
  · exact hall
  · unfold cooldownEnd at hend
    omega

theorem isLeast_cooldownRemaining (hstart : e.cooldownStart = some s) (hs : s.isLeap = false)
    (hnow : now.isLeap = false) (h : s.nanoCount ≤ now.nanoCount) :
    IsLeast {r : ℕ | e.cooldownEnd s ≤ now.nanoCount + r * 1000000000} (e.cooldownRemaining now) := by
  constructor
  · rcases (cooldownRemaining_le_iff hstart hs hnow).1 le_rfl with hall | hend
    · show e.cooldownEnd s ≤ _
      unfold cooldownEnd
      omega
    · exact hend
  · intro r hr
    exact (cooldownRemaining_le_iff hstart hs hnow).2 (.inr hr)

theorem cooldownRemaining_eq_zero_iff (hstart : e.cooldownStart = some s) (hs : s.isLeap = false)
    (hnow : now.isLeap = false) :
    e.cooldownRemaining now = 0 ↔ e.cooldown.toNat = 0 ∨ e.cooldownEnd s ≤ now.nanoCount := by
  rw [← Nat.le_zero, cooldownRemaining_le_iff hstart hs hnow, Nat.le_zero]
  simp

/-- Behind its start, what is left of a cooldown leads to its end. -/
theorem cooldownEnd_le (hstart : e.cooldownStart = some s) (hs : s.isLeap = false)
    (hnow : now.isLeap = false) (h : s.nanoCount ≤ now.nanoCount) :
    e.cooldownEnd s ≤ now.nanoCount + e.cooldownRemaining now * 1000000000 :=
  (isLeast_cooldownRemaining hstart hs hnow h).1

/-- Once what was left has passed, nothing is left. -/
theorem cooldownRemaining_of_passed (hstart : e.cooldownStart = some s) (hs : s.isLeap = false)
    (hnow : now.isLeap = false) (hlater : later.isLeap = false) (h : s.nanoCount ≤ now.nanoCount)
    (hpassed : now.nanoCount + e.cooldownRemaining now * 1000000000 ≤ later.nanoCount) :
    e.cooldownRemaining later = 0 :=
  (cooldownRemaining_eq_zero_iff hstart hs hlater).2
    (.inr ((cooldownEnd_le hstart hs hnow h).trans hpassed))

/-- A second before what was left has passed, something is left. -/
theorem cooldownRemaining_pos_of_early (hstart : e.cooldownStart = some s) (hs : s.isLeap = false)
    (hnow : now.isLeap = false) (hlater : later.isLeap = false) (h : s.nanoCount ≤ now.nanoCount)
    (hle : now.nanoCount ≤ later.nanoCount)
    (hearly : later.nanoCount ≤ now.nanoCount + ((e.cooldownRemaining now : Int) - 1) * 1000000000) :
    0 < e.cooldownRemaining later := by
  rw [Nat.pos_iff_ne_zero, ne_eq, cooldownRemaining_eq_zero_iff hstart hs hlater]
  have hall := e.cooldownRemaining_le now
  rintro (hzero | hend)
  · omega
  · -- The end would be reached a second earlier than the fewest seconds lead to it.
    have hfewer : e.cooldownRemaining now ≤ e.cooldownRemaining now - 1 :=
      (isLeast_cooldownRemaining hstart hs hnow h).2 (hend.trans (hearly.trans (by omega)))
    omega

/-! ## When the node can be activated -/

theorem activatableAt?_of_start (hstart : e.cooldownStart = some s) :
    e.activatableAt? = s.addSeconds? e.cooldown.toNat := by
  unfold activatableAt?
  rw [hstart]
  rfl

theorem activatableAt?_eq_some_iff (hstart : e.cooldownStart = some s) (hs : s.isLeap = false) :
    e.activatableAt? = some t ↔ t.isLeap = false ∧ t.nanoCount = e.cooldownEnd s := by
  rw [activatableAt?_of_start hstart]
  exact Instant.addSeconds?_eq_some_iff hs

/-- An end that is not on the calendar does not come. -/
theorem cooldownRemaining_pos_of_endless (hstart : e.cooldownStart = some s) (hs : s.isLeap = false)
    (hnone : e.activatableAt? = none) (hnow : now.isLeap = false) : 0 < e.cooldownRemaining now := by
  rw [Nat.pos_iff_ne_zero, ne_eq, cooldownRemaining_eq_zero_iff hstart hs hnow]
  rintro (hzero | hend)
  · -- A cooldown of no time ends where it starts.
    have hat := activatableAt?_of_start hstart
    rw [hnone, hzero, Instant.addSeconds?_zero] at hat
    cases hat
  · obtain ⟨t, ht, hcount⟩ :=
      Instant.exists_of_between hnow (Int.le_add_of_nonneg_right (by omega)) hend
    rw [(activatableAt?_eq_some_iff hstart hs).2 ⟨ht, hcount⟩] at hnone
    cases hnone

/-! ## In words -/

/-- A number, if a signed word of 64 bits holds it. -/
def signedWord? (n : Int) : Option Int :=
  if -9223372036854775808 ≤ n ∧ n < 9223372036854775808 then some n else none

/-- A number, if an unsigned word of 64 bits holds it. -/
def word? (n : Int) : Option Int :=
  if 0 ≤ n ∧ n < 18446744073709551616 then some n else none

/-- A number of nanoseconds, if a duration holds it: no more than the seconds that can be added. -/
def duration? (n : Int) : Option Int :=
  if n.natAbs ≤ longestSpan * 1000000000 then some n else none

/-- What is left of a cooldown, worked out in words; none if a step goes beyond them. -/
def remainingInWords? (e : Entry) (now : Instant) : Option Int :=
  match e.cooldownStart with
  | none => some 0
  | some start => do
    let duration ← duration? (now.span start)
    let seconds ← signedWord? (duration.tdiv 1000000000)
    let elapsed ← word? (max seconds 0)
    word? (max (e.cooldown.toNat - elapsed) 0)

/-- When the node can be activated, if its cooldown started at an instant that lies in no leap second,
worked out in words; none if a step goes beyond them. -/
def endInWords? (e : Entry) (start : Instant) : Option (Option Instant) :=
  if e.cooldown.toNat > longestSpan then some none
  else do
    let duration ← duration? (e.cooldown.toNat * 1000000000)
    let count ← signedWord? (start.secondCount + duration / 1000000000)
    some (Instant.ofParts? (count / 86400) (count % 86400).toNat start.nano)

theorem signedWord?_eq {n : Int} (h : n.natAbs < 9223372036854775808) : signedWord? n = some n :=
  if_pos (by omega)

theorem word?_eq {n : Nat} (h : n < 18446744073709551616) : word? n = some (n : Int) :=
  if_pos (by omega)

theorem duration?_eq {n : Int} (h : n.natAbs ≤ longestSpan * 1000000000) : duration? n = some n :=
  if_pos h

/-- Whole seconds of a span, less than none taken for none, are those that have elapsed. -/
theorem max_tdiv_span (now start : Instant) :
    max ((now.span start).tdiv 1000000000) 0 = (now.elapsedSeconds start : Int) := by
  have helapsed : now.elapsedSeconds start = (now.span start / 1000000000).toNat := rfl
  rw [helapsed]
  rcases Int.le_total 0 (now.span start) with h | h
  · rw [Int.tdiv_eq_ediv_of_nonneg h]
    omega
  · have hneg : (now.span start).tdiv 1000000000 = -(-now.span start / 1000000000) := by
      rw [← Int.tdiv_eq_ediv_of_nonneg (by omega), Int.neg_tdiv, Int.neg_neg]
    omega

theorem remainingInWords?_eq (e : Entry) (now : Instant) :
    e.remainingInWords? now = some (e.cooldownRemaining now : Int) := by
  unfold remainingInWords? cooldownRemaining
  cases e.cooldownStart with
  | none => rfl
  | some start =>
    have hspan := natAbs_span_le now start
    have hseconds : ((now.span start).tdiv 1000000000).natAbs ≤ longestSpan := by
      rw [Int.natAbs_tdiv]
      exact Nat.div_le_of_le_mul (hspan.trans_eq (Nat.mul_comm _ _))
    have helapsed := max_tdiv_span now start
    have hcooldown := e.cooldown.toNat_lt
    have hleft : max ((e.cooldown.toNat : Int) - now.elapsedSeconds start) 0 =
        ((e.cooldown.toNat - now.elapsedSeconds start : Nat) : Int) := by omega
    unfold longestSpan at hseconds
    simp only [Option.bind_eq_bind, duration?_eq hspan, Option.bind_some]
    rw [signedWord?_eq (by omega), Option.bind_some, helapsed, word?_eq (by omega), Option.bind_some,
      hleft, word?_eq (by omega)]

theorem endInWords?_eq (hstart : e.cooldownStart = some s) (hs : s.isLeap = false) :
    e.endInWords? s = some e.activatableAt? := by
  rw [activatableAt?_of_start hstart]
  unfold endInWords? Instant.addSeconds?
  split
  · rfl
  · rename_i hshort
    have hsecond := s.secondCount_bounds
    have hseconds : (e.cooldown.toNat * 1000000000 : Int) / 1000000000 = e.cooldown.toNat := by omega
    rw [duration?_eq (by omega), Option.bind_eq_bind, Option.bind_some, hseconds, signedWord?_eq, hs]
    · rfl
    · unfold longestSpan at hshort
      omega

end Enrollment.Node.Entry
