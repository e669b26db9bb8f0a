import Mathlib.Data.ENat.Lattice
import Enrollment.Proofs.Client.Sending
/-!
# Trying again

How often a request is sent, and how long it is waited in between, whatever comes of it each time.
What comes of all the requests that could ever be sent is an endless stream of outcomes; an attempt
takes the next one. As many attempts are made as failures that may pass stand in front of the
stream, and one more, but no more than are allowed.

Results:
 1. `run_attempt`: an attempt sends its request, waits for nothing, and takes one outcome.
 2. `tries_execute`: attempts go on from one that failed in a way that may pass, and end with the
    next one that did not, or with the last one that is allowed.
 3. `execute_retries`: the number of attempts, what is sent, what comes of it and how long is
    waited.
-/

namespace Enrollment.Client

open Plan (Only course_bind course_done course_transcript)

variable {α : Type}

/-! ## Endless outcomes -/

/-- Surroundings in which the requests come out as a stream has it, one after the other. -/
def streamed (stream : Nat → Http.Outcome) : (r : WireRequest) → Nat → Wire.Answer r × Nat
  | .send _ _, i => (stream i, i + 1)
  | .wait _, i => ((), i)
  | .note _, i => ((), i)

/-- How many members of a sequence have a property before one has not; all of them may have it. -/
noncomputable def leading (p : Nat → Prop) : ℕ∞ :=
  ⨅ (i : Nat) (_ : ¬p i), (i : ℕ∞)

theorem le_leading {p : Nat → Prop} {n : Nat} (h : ∀ i < n, p i) : (n : ℕ∞) ≤ leading p := by
  refine le_iInf₂ fun i hi => ?_
  by_contra hlt
  exact hi (h i (by exact_mod_cast not_le.1 hlt))

theorem leading_le {p : Nat → Prop} {n : Nat} (h : ¬p n) : leading p ≤ n :=
  iInf₂_le n h

/-- What goes on as long as a property holds, up to a limit, goes on as often as the smaller of the
two says. -/
theorem eq_min_leading {p : Nat → Prop} {n limit : Nat} (hle : n ≤ limit) (hall : ∀ i < n, p i)
    (hend : n = limit ∨ ¬p n) : (n : ℕ∞) = min (limit : ℕ∞) (leading p) := by
  refine le_antisymm (le_min (by exact_mod_cast hle) (le_leading hall)) ?_
  rcases hend with rfl | hp
  · exact min_le_left _ _
  · exact (min_le_right _ _).trans (leading_le hp)

/-! ## Waits -/

def wait? : Exchange Wire → Option Span
  | ⟨.wait s, _⟩ => some s
  | ⟨.send _ _, _⟩ => none
  | ⟨.note _, _⟩ => none

def waits (t : List (Exchange Wire)) : List Span :=
  t.filterMap wait?

@[simp] theorem waits_append (t u : List (Exchange Wire)) : waits (t ++ u) = waits t ++ waits u :=
  List.filterMap_append

/-- Doubling the wait never makes it longer than the longest one. -/
theorem Retry.backoff_le (retry : Retry) (attempt : Nat) :
    (retry.backoff attempt).nanos ≤ retry.maxBackoff.nanos := by
  have hmillis : retry.backoffMillis attempt ≤ retry.maxBackoff.millis := by
    rw [backoffMillis_eq]
    omega
  calc (retry.backoff attempt).nanos
      ≤ retry.maxBackoff.millis * 1000000 := Nat.mul_le_mul_right _ hmillis
    _ ≤ retry.maxBackoff.nanos := Nat.div_mul_le_self _ _

def Retry.waitBehind (retry : Retry) (attempt : Nat) : Except Failure α → Span
  | .error f => retry.delay attempt f
  | .ok _ => retry.backoff attempt

/-- Something came to a failure that may pass: no answer in time, no connection, or too many
requests if they are to be sent again. -/
def Retry.MayPass (retry : Retry) : Except Failure α → Prop
  | .error (.timedOut _) => True
  | .error (.unreachable _) => True
  | .error (.rateLimited _) => retry.onRateLimit = true
  | _ => False

theorem Retry.isWorthRetrying_iff (retry : Retry) (f : Failure) :
    retry.isWorthRetrying f = true ↔ retry.MayPass (.error f : Except Failure α) := by
  cases f with
  | timedOut seconds => exact iff_of_true rfl trivial
  | unreachable reason => exact iff_of_true rfl trivial
  | rateLimited retryAfter => exact Iff.rfl
  | _ => exact iff_of_false Bool.false_ne_true id

/-! ## One attempt -/

/-- What only notes leaves the stream as it is. -/
theorem quiet_of_only {p : Plan Wire α} (h : Only WireRequest.IsNote p)
    (stream : Nat → Http.Outcome) (i : Nat) :
    (p.run (streamed stream) i).2 = i ∧ sent (p.transcript (streamed stream) i) = [] ∧
      outcomes (p.transcript (streamed stream) i) = [] ∧
      waits (p.transcript (streamed stream) i) = [] := by
  induction p with
  | done a => exact ⟨rfl, rfl, rfl, rfl⟩
  | ask r next ih =>
    cases r with
    | note e => exact ih () (h.2 ())
    | send r timeout => exact h.1.elim
    | wait s => exact h.1.elim

/-- What sends one request takes one outcome. -/
theorem SendsOnce.takes {timeout : Span} {r : Http.Request} {p : Plan Wire α}
    (h : SendsOnce timeout (.ok r) p) (stream : Nat → Http.Outcome) (i : Nat) :
    (p.run (streamed stream) i).2 = i + 1 ∧ sent (p.transcript (streamed stream) i) = [r] ∧
      outcomes (p.transcript (streamed stream) i) = [stream i] ∧
      waits (p.transcript (streamed stream) i) = [] := by
  obtain ⟨before, behind, rfl, hbefore, hbehind⟩ := h
  obtain ⟨hstate, hsent, houtcomes, hwaits⟩ := quiet_of_only hbefore stream i
  obtain ⟨hstate', hsent', houtcomes', hwaits'⟩ :=
    quiet_of_only (hbehind (stream i)) stream (i + 1)
  rw [Plan.run_bind, Plan.transcript_bind, hstate, sent_append, outcomes_append, waits_append, hsent,
    houtcomes, hwaits]
  refine ⟨hstate', ?_, ?_, ?_⟩
  · exact congrArg (r :: ·) hsent'
  · exact congrArg (stream i :: ·) houtcomes'
  · exact hwaits'

variable (timeout : Span) (made : Except Failure Http.Request)
  (read : Except Failure String → Except Failure α)

/-- An attempt: a request is sent, and what it comes to is read. -/
def attempt : Plan Wire (Except Failure α) := do
  return read (← sendOnce timeout made)

/-- What an attempt comes to, given what comes of its request. -/
def attemptEnd (o : Http.Outcome) : Except Failure α :=
  read (made >>= fun r => meaning timeout r o)

/-- The requests of an attempt: one, or none if it cannot be made. -/
def requests : List Http.Request :=
  made.toOption.toList

theorem run_attempt (stream : Nat → Http.Outcome) (i : Nat) :
    (attempt timeout made read).run (streamed stream) i =
        (attemptEnd timeout made read (stream i), i + (requests made).length) ∧
      sent ((attempt timeout made read).transcript (streamed stream) i) = requests made ∧
      waits ((attempt timeout made read).transcript (streamed stream) i) = [] := by
  cases made with
  | error f => exact ⟨rfl, rfl, rfl⟩
  | ok r =>
    have honce : SendsOnce timeout (.ok r) (attempt timeout (.ok r) read) :=
      sendsOnce_sendOnce.bind fun _ => Plan.only_done
    obtain ⟨hstate, hsent, houtcomes, hwaits⟩ := honce.takes stream i
    refine ⟨Prod.ext ?_ hstate, hsent, hwaits⟩
    -- The outcome that the attempt took is the one that its value is made of.
    obtain ⟨t₁, t₂, body, ht, h₁, h₂⟩ := course_bind.1
      (course_transcript (streamed stream) (attempt timeout (.ok r) read) i)
    obtain ⟨rfl, hv⟩ := course_done.1 h₂
    obtain ⟨o, -, ho, rfl⟩ := course_sendOnce h₁
    rw [ht, List.append_nil, ho] at houtcomes
    rw [hv, List.cons.inj houtcomes |>.1]
    rfl

/-- Without a request it does not matter how far the stream has been taken. -/
theorem attemptEnd_mul (stream : Nat → Http.Outcome) (i : Nat) :
    attemptEnd timeout made read (stream (i * (requests made).length)) =
      attemptEnd timeout made read (stream i) := by
  cases made with
  | error f => rfl
  | ok r =>
    show attemptEnd timeout (.ok r) read (stream (i * 1)) = _
    rw [Nat.mul_one]

/-! ## All attempts -/

/-- Attempts that come to the members of a sequence, from one on: all but the last are tried
again. -/
structure Tries (retry : Retry) (x : Nat → Except Failure α) (each : List Http.Request)
    (left first n : Nat) (t : List (Exchange Wire)) (v : Except Failure α) : Prop where
  bound : n ≤ left
  passing : ∀ i < n, retry.MayPass (x (first + i))
  /-- What is not tried again is the last one that is allowed, or did not. -/
  ended : n = left ∨ ¬retry.MayPass (x (first + n))
  value : v = x (first + n)
  sent : sent t = (List.replicate (n + 1) each).flatten
  waits : waits t = (List.range n).map fun i => retry.waitBehind (first + i) (x (first + i))

section

variable {retry : Retry} {x : Nat → Except Failure α} {each : List Http.Request}

/-- An attempt that is not tried again. -/
theorem Tries.last {left first : Nat} {t : List (Exchange Wire)}
    (hended : left = 0 ∨ ¬retry.MayPass (x first)) (hsent : Client.sent t = each)
    (hwaits : Client.waits t = []) : Tries retry x each left first 0 t (x first) where
  bound := Nat.zero_le left
  passing i hi := absurd hi (Nat.not_lt_zero i)
  ended := hended.imp Eq.symm id
  value := rfl
  sent := by rw [hsent, List.replicate_one, List.flatten_singleton]
  waits := hwaits

/-- An attempt that is tried again. -/
theorem Tries.again {left first n : Nat} {t u : List (Exchange Wire)} {v : Except Failure α}
    {e : Log.Event} (hpass : retry.MayPass (x first)) (hsent : Client.sent t = each)
    (hwaits : Client.waits t = []) (h : Tries retry x each left (first + 1) n u v) :
    Tries retry x each (left + 1) first (n + 1)
      (t ++ ⟨.note e, ()⟩ :: ⟨.wait (retry.waitBehind first (x first)), ()⟩ :: u) v where
  bound := Nat.succ_le_succ h.bound
  passing i hi := by
    cases i with
    | zero => exact hpass
    | succ i =>
      rw [show first + (i + 1) = first + 1 + i by omega]
      exact h.passing i (Nat.lt_of_succ_lt_succ hi)
  ended := by
    rw [show first + (n + 1) = first + 1 + n by omega]
    exact h.ended.imp (congrArg Nat.succ) id
  value := by
    rw [show first + (n + 1) = first + 1 + n by omega]
    exact h.value
  sent := by
    rw [sent_append, hsent, sent_note, sent_wait, h.sent, List.replicate_succ (n := n + 1),
      List.flatten_cons]
  waits := by
    rw [waits_append, hwaits, List.range_succ_eq_map, List.map_cons, List.map_map]
    show _ :: Client.waits u = _
    rw [h.waits]
    refine congrArg _ (List.map_congr_left fun i _ => ?_)
    rw [Function.comp_apply, show first + 1 + i = first + i.succ by omega]

end

/-- Attempts go on from one that came to a failure that may pass, if one more is allowed, and end
with the first one that did not. -/
theorem tries_execute (retry : Retry) (stream : Nat → Http.Outcome) (left first : Nat) :
    ∃ n, Tries retry (fun i => attemptEnd timeout made read (stream i)) (requests made) left first n
      ((execute retry (attempt timeout made read) left first).transcript (streamed stream)
        (first * (requests made).length))
      ((execute retry (attempt timeout made read) left first).run (streamed stream)
        (first * (requests made).length)).1 := by
  generalize hends : (fun i => attemptEnd timeout made read (stream i)) = x
  induction left generalizing first with
  | zero =>
    obtain ⟨hrun, hsent, hwaits⟩ := run_attempt timeout made read stream
      (first * (requests made).length)
    rw [attemptEnd_mul, congrFun hends first] at hrun
    rw [execute, hrun]
    exact ⟨0, .last (.inl rfl) hsent hwaits⟩
  | succ left ih =>
    obtain ⟨hrun, hsent, hwaits⟩ := run_attempt timeout made read stream
      (first * (requests made).length)
    rw [attemptEnd_mul, congrFun hends first, ← Nat.succ_mul] at hrun
    rw [execute, Plan.bind_eq, Plan.transcript_bind, Plan.run_bind, hrun]
    cases hx : x first with
    | ok a =>
      have hfine : ¬retry.MayPass (x first) := by rw [hx]; exact id
      show ∃ n, Tries retry x _ _ first n (_ ++ []) (.ok a)
      rw [List.append_nil, ← hx]
      exact ⟨0, .last (.inr hfine) hsent hwaits⟩
    | error f =>
      dsimp only
      by_cases hf : retry.isWorthRetrying f = true
      · have hpass : retry.MayPass (x first) := by
          rw [hx]
          exact (retry.isWorthRetrying_iff f).1 hf
        have hwait : retry.delay first f = retry.waitBehind first (x first) := by rw [hx]; rfl
        rw [if_pos hf, hwait]
        obtain ⟨n, h⟩ := ih (first + 1)
        exact ⟨n + 1, h.again hpass hsent hwaits⟩
      · have hfatal : ¬retry.MayPass (x first) := by
          rw [hx]
          exact fun h => hf ((retry.isWorthRetrying_iff f).2 h)
        rw [if_neg hf]
        show ∃ n, Tries retry x _ _ first n (_ ++ []) (.error f)
        rw [List.append_nil, ← hx]
        exact ⟨0, .last (.inr hfatal) hsent hwaits⟩

/-- How long is waited behind an attempt: as long as it was told, but no longer than the longest
wait, if there were too many requests, and else as long as doubling says. -/
theorem waitBehind_eq (retry : Retry) (i : Nat) (v : Except Failure α) :
    retry.waitBehind i v =
      match v with
      | .error (.rateLimited (some seconds)) => ⟨min (seconds * 1000000000) retry.maxBackoff.nanos⟩
      | _ => retry.backoff i := by
  cases v with
  | ok a => rfl
  | error f =>
    cases f with
    | rateLimited retryAfter => cases retryAfter <;> rfl
    | _ => rfl

theorem waitBehind_le (retry : Retry) (i : Nat) (v : Except Failure α) :
    (retry.waitBehind i v).nanos ≤ retry.maxBackoff.nanos := by
  rw [waitBehind_eq]
  split
  · exact Nat.min_le_right _ _
  · exact retry.backoff_le i

/-- Whatever requests come out as, and whatever is read of that: as many attempts are made as
failures that may pass stand in front, and one more, but no more than are allowed. Each sends the
same request, the last one says what comes of all, and the wait behind each of the others follows
from what it came to and never exceeds the longest wait. This is how a connection exchanges requests
for answers. -/
theorem execute_retries :
    (∀ {α : Type} (c : Connection) (codec : Document.Codec α) (made : Except Failure Http.Request),
      c.exchange codec made =
        execute c.retry (attempt c.timeout made (decodeBody codec)) c.retry.maxRetries.toNat 0) ∧
    ∀ {α : Type} (retry : Retry) (timeout : Span) (made : Except Failure Http.Request)
        (read : Except Failure String → Except Failure α) (stream : Nat → Http.Outcome),
      let x i := attemptEnd timeout made read (stream i)
      let p := execute retry (attempt timeout made read) retry.maxRetries.toNat 0
      let t := p.transcript (streamed stream) 0
      ∃ n : Nat,
        ((n + 1 : Nat) : ℕ∞) =
          1 + min (retry.maxRetries.toNat : ℕ∞) (leading fun i => retry.MayPass (x i)) ∧
        sent t = (List.replicate (n + 1) (requests made)).flatten ∧
        (p.run (streamed stream) 0).1 = x n ∧
        (waits t = (List.range n).map fun i =>
          match x i with
          | .error (.rateLimited (some seconds)) =>
            ⟨min (seconds * 1000000000) retry.maxBackoff.nanos⟩
          | _ => retry.backoff i) ∧
        ∀ w ∈ waits t, w.nanos ≤ retry.maxBackoff.nanos := by
  refine ⟨fun _ _ _ => rfl, ?_⟩
  intro α retry timeout made read stream x p t
  obtain ⟨n, h⟩ := tries_execute timeout made read retry stream
    retry.maxRetries.toNat 0
  rw [Nat.zero_mul] at h
  have hpassing := h.passing
  have hended := h.ended
  have hvalue := h.value
  have hwaits := h.waits
  simp only [Nat.zero_add] at hpassing hended hvalue hwaits
  refine ⟨n, ?_, h.sent, hvalue, ?_, ?_⟩
  · rw [← eq_min_leading h.bound hpassing hended, Nat.cast_succ, add_comm]
  · simp only [waitBehind_eq] at hwaits
    exact hwaits
  · intro w hw
    rw [hwaits] at hw
    obtain ⟨i, -, rfl⟩ := List.mem_map.1 hw
    exact waitBehind_le retry i _

/-- Tries twice, and waits for three seconds at most. -/
def impatient : Retry where
  maxRetries := 1
  maxBackoff := .ofSeconds 3

/-- Told to wait for a minute, an impatient client waits for three seconds. -/
theorem minute_cut_short :
    let made : Except Failure Http.Request :=
      .ok ⟨.get, ⟨['h', 't', 't', 'p'], none, .segments [], none, none⟩, none, userAgent, none⟩
    let read : Except Failure String → Except Failure Unit :=
      fun _ => .error (.rateLimited (some 60))
    let p := execute impatient (attempt (.ofSeconds 30) made read) impatient.maxRetries.toNat 0
    let t := p.transcript (streamed fun _ => .closed) 0
    .ofSeconds 3 ∈ waits t ∧ (Span.ofSeconds 3).nanos ≤ impatient.maxBackoff.nanos := by
  intro made read p t
  have hmem : .ofSeconds 3 ∈ waits t := by
    show _ ∈ [Span.ofSeconds 3]
    exact List.mem_singleton_self _
  obtain ⟨n, -, -, -, -, hbound⟩ :=
    execute_retries.2 impatient (.ofSeconds 30) made read fun _ => .closed
  exact ⟨hmem, hbound _ hmem⟩

end Enrollment.Client
