import Enrollment.Proofs.Client.Documents
import Enrollment.Proofs.Client.Retrying
import Enrollment.Proofs.Text.Digits
/-!
# What refusals mean

What an answer that is not a success comes to, whatever its status, its headers and its body are.
The reason is what the coordinator says under the key `error`, and otherwise all that it says; how
long to wait is what the first header of that name says, if it is a number of seconds.

Results:
 1. `reasonOf_eq_iff`: the reason that a body gives.
 2. `retryAfter?_eq_some_iff`: the seconds that an answer says to wait.
 3. `refusal_means`: what a refusal comes to, and nothing else.
-/

namespace Enrollment.Client

open Document (Tree)

/-! ## Reasons -/

/-- A body gives a reason: it is a document whose top level is a record, and the last member in it
with the key `error` is that text. -/
inductive GivesReason (body reason : String) : Prop
  | mk {front behind : List (Option String × Tree)}
      (h : IsTaken body (.record (front ++ (some "error", .text (some reason)) :: behind) .closed))
      (hlast : ∀ m ∈ behind, m.1 ≠ some "error")

/-- The reason of a refusal: what its body gives, or the body itself if it gives none. -/
def IsReason (body reason : String) : Prop :=
  GivesReason body reason ∨ (∀ other, ¬GivesReason body other) ∧ reason = body

variable {body reason : String} {r : Http.Response} {f : Failure}

/-- The last text under a key has no other member with that key behind it. -/
theorem lastText?_eq_some_iff {key s : String} {members : List (Option String × Tree)} :
    lastText? key members = some s ↔ ∃ front behind,
      members = front ++ (some key, .text (some s)) :: behind ∧ ∀ m ∈ behind, m.1 ≠ some key := by
  unfold lastText?
  constructor
  · intro h
    split at h
    · next k s' hfind =>
      subst h
      obtain ⟨hkey, behind, front, hmembers, hnone⟩ := List.find?_eq_some_iff_append.1 hfind
      obtain rfl := eq_of_beq hkey
      refine ⟨front.reverse, behind.reverse, ?_, ?_⟩
      · rw [← List.reverse_reverse members, hmembers]
        simp
      · intro m hm heq
        have := hnone m (List.mem_reverse.1 hm)
        simp [heq] at this
    · cases h
  · rintro ⟨front, behind, rfl, hlast⟩
    have hfind : (front ++ (some key, Tree.text (some s)) :: behind).reverse.find?
        (fun m => m.1 == some key) = some (some key, .text (some s)) := by
      refine List.find?_eq_some_iff_append.2
        ⟨beq_self_eq_true _, behind.reverse, front.reverse, ?_, ?_⟩
      · simp
      · intro m hm
        simpa using hlast m (List.mem_reverse.1 hm)
    rw [hfind]

theorem reasonOf_of_givesReason (h : GivesReason body reason) : reasonOf body = reason := by
  obtain ⟨htaken, hlast⟩ := h
  obtain ⟨hread, hdocument⟩ := isTaken_iff.1 htaken
  unfold reasonOf
  rw [hread]
  dsimp only
  rw [if_pos hdocument, lastText?_eq_some_iff.2 ⟨_, _, rfl, hlast⟩]
  rfl

theorem reasonOf_cases (body : String) :
    GivesReason body (reasonOf body) ∨ reasonOf body = body := by
  unfold reasonOf
  split
  · next members ending hread =>
    split
    · next hdocument =>
      obtain ⟨rfl, -⟩ := isDocument_record hdocument
      cases hlast : lastText? "error" members with
      | none => exact .inr rfl
      | some reason =>
        obtain ⟨front, behind, rfl, hbehind⟩ := lastText?_eq_some_iff.1 hlast
        exact .inl (.mk (isTaken_iff.2 ⟨hread, hdocument⟩) hbehind)
    · exact .inr rfl
  · exact .inr rfl

/-- The reason that is told is the reason. -/
theorem reasonOf_eq_iff : reasonOf body = reason ↔ IsReason body reason := by
  constructor
  · rintro rfl
    by_cases h : ∃ other, GivesReason body other
    · obtain ⟨other, hother⟩ := h
      rw [reasonOf_of_givesReason hother]
      exact .inl hother
    · rw [not_exists] at h
      refine .inr ⟨h, ?_⟩
      exact (reasonOf_cases body).resolve_left (h _)
  · rintro (h | ⟨hnone, rfl⟩)
    · exact reasonOf_of_givesReason h
    · exact (reasonOf_cases reason).resolve_left (hnone _)

/-! ## Waiting -/

/-- A header tells a number of seconds: it is visible, and between blanks there are digits, perhaps
with a plus in front, of a natural of 64 bits. -/
structure TellsSeconds (header : String) (n : Nat) : Prop where
  visible : ∀ c ∈ header.toList, (0x20 ≤ c.toNat ∧ c.toNat < 0x7f) ∨ c = '\t'
  digits : ∃ s, (Text.trim header.toList = s ∨ Text.trim header.toList = '+' :: s) ∧ s ≠ [] ∧
    (∀ c ∈ s, '0' ≤ c ∧ c ≤ '9') ∧ s.foldl (fun m c => m * 10 + (c.toNat - 48)) 0 = n
  small : n < UInt64.size

/-- An answer says how many seconds to wait: in the first of its headers `Retry-After`, in whatever
case. -/
inductive TellsToWait (r : Http.Response) (n : Nat) : Prop
  | mk {front behind : List (String × String)} {name value : String}
      (h : r.headers = front ++ (name, value) :: behind)
      (hname : name.map Char.toLower = "retry-after")
      (hfirst : ∀ other ∈ front, other.1.map Char.toLower ≠ "retry-after")
      (hvalue : TellsSeconds value n)

/-- What is behind a plus are the digits, because no digit is a plus. -/
theorem digits_of_plus {s digits : List Char} (hdigits : ∀ c ∈ digits, '0' ≤ c ∧ c ≤ '9') :
    s = digits ∨ s = '+' :: digits →
    (match s with
      | '+' :: digits => digits
      | digits => digits) = digits := by
  rintro (rfl | rfl)
  · split
    · exact absurd (hdigits '+' List.mem_cons_self).1 (by decide)
    · rfl
  · rfl

theorem secondsOf_eq_some_iff {header : String} {n : Nat} :
    secondsOf header = some n ↔ TellsSeconds header n := by
  have hvisible : (header.toList.all fun c =>
      (0x20 ≤ c.toNat && c.toNat < 0x7f) || c == '\t') = true ↔
      ∀ c ∈ header.toList, (0x20 ≤ c.toNat ∧ c.toNat < 0x7f) ∨ c = '\t' := by
    simp only [List.all_eq_true, Bool.or_eq_true, Bool.and_eq_true, decide_eq_true_eq, beq_iff_eq]
  have hsmall : ∀ m, m ≤ Document.wordLimit ↔ m < UInt64.size :=
    fun m => (Nat.lt_succ_iff (m := m) (n := UInt64.size - 1)).symm
  unfold secondsOf
  constructor
  · intro h
    split at h
    · next hall =>
      dsimp only at h
      split at h
      · next m hm =>
        split at h
        · next hle =>
          cases h
          refine ⟨hvisible.1 hall, ⟨_, ?_, Text.ofDecimal?_eq_some_iff.1 hm⟩, (hsmall n).1 hle⟩
          split
          · next hplus => exact .inr hplus
          · exact .inl rfl
        · cases h
      · cases h
    · cases h
  · rintro ⟨hall, ⟨s, htrim, hs⟩, hle⟩
    have hvalue := (congrArg Text.ofDecimal? (digits_of_plus hs.2.1 htrim)).trans
      (Text.ofDecimal?_eq_some_iff.2 hs)
    rw [if_pos (hvisible.2 hall)]
    dsimp only
    split
    · next m hm =>
      obtain rfl := Option.some.inj (hm.symm.trans hvalue)
      exact if_pos ((hsmall m).2 hle)
    · next hm => cases hm.symm.trans hvalue

theorem retryAfter?_eq_some_iff {n : Nat} : retryAfter? r = some n ↔ TellsToWait r n := by
  have hlower : "retry-after".map Char.toLower = "retry-after" := by decide +kernel
  unfold retryAfter? Http.Response.header?
  rw [hlower, Option.bind_eq_some_iff]
  constructor
  · rintro ⟨value, hvalue, hn⟩
    obtain ⟨⟨name, value'⟩, hfind, rfl⟩ := Option.map_eq_some_iff.1 hvalue
    obtain ⟨hname, front, behind, hheaders, hfirst⟩ := List.find?_eq_some_iff_append.1 hfind
    refine .mk hheaders (eq_of_beq hname) (fun other hother heq => ?_) (secondsOf_eq_some_iff.1 hn)
    have := hfirst other hother
    simp [heq] at this
  · rintro ⟨hheaders, hname, hfirst, hvalue⟩
    refine ⟨_, Option.map_eq_some_iff.2 ⟨_, List.find?_eq_some_iff_append.2
      ⟨beq_iff_eq.2 hname, _, _, hheaders, ?_⟩, rfl⟩, secondsOf_eq_some_iff.2 hvalue⟩
    intro other hother
    simpa using hfirst other hother

/-! ## Refusals -/

/-- A failure is what an answer that is not a success means:

- the credentials were not accepted, if the status is 401 or 403;
- the resource is not known, if it is 404;
- the request was refused, if it is 409 or 422;
- there were too many requests, if it is 429;
- something else with any other status, which is kept.

The reason is that of the body, and a body that ends too early is taken for an empty one. -/
inductive Means (r : Http.Response) : Failure → Prop
  | unauthorized (h : r.status = 401 ∨ r.status = 403) : Means r .unauthorized
  | notFound {reason : String} (h : r.status = 404) (hreason : IsReason (r.text?.getD "") reason) :
      Means r (.notFound reason)
  | rejected {reason : String} (h : r.status = 409 ∨ r.status = 422)
      (hreason : IsReason (r.text?.getD "") reason) : Means r (.rejected reason)
  | rateLimited {wait : Option Nat} (h : r.status = 429)
      (hwait : ∀ n, wait = some n ↔ TellsToWait r n) : Means r (.rateLimited wait)
  | unexpected {reason : String} (h : r.status ∉ [401, 403, 404, 409, 422, 429])
      (hreason : IsReason (r.text?.getD "") reason) : Means r (.unexpected r.status reason)

theorem means_failureOf (r : Http.Response) : Means r (failureOf r) := by
  have hreason := reasonOf_eq_iff.1 (rfl : reasonOf (r.text?.getD "") = _)
  unfold failureOf
  split
  · next h => exact .unauthorized (.inl h)
  · next h => exact .unauthorized (.inr h)
  · next h => exact .notFound h hreason
  · next h => exact .rejected (.inl h) hreason
  · next h => exact .rejected (.inr h) hreason
  · next h => exact .rateLimited h fun n => retryAfter?_eq_some_iff
  · exact .unexpected (by simp_all) hreason

/-- An answer that is not a success means one thing. -/
theorem Means.eq_failureOf (h : Means r f) : f = failureOf r := by
  unfold failureOf
  cases h with
  | unauthorized h => rcases h with h | h <;> simp only [h]
  | notFound h hreason => simp only [h, reasonOf_eq_iff.2 hreason]
  | rejected h hreason => rcases h with h | h <;> simp only [h, reasonOf_eq_iff.2 hreason]
  | rateLimited h hwait =>
    simp only [h]
    refine congrArg Failure.rateLimited (Option.ext fun n => ?_)
    rw [hwait, retryAfter?_eq_some_iff]
  | unexpected h hreason =>
    simp only [List.mem_cons, not_or] at h
    split <;> simp_all [reasonOf_eq_iff.2 hreason]

/-- Whatever answers while a refusal is made sense of, what comes of it is what it means. -/
theorem run_bodyOf_refusal {σ : Type} (answer : (q : Wire.Request) → σ → Wire.Answer q × σ) (s : σ)
    (hr : r.isSuccess = false) : ((bodyOf r).run answer s).1 = .error (failureOf r) := by
  unfold bodyOf
  rw [hr, if_neg Bool.false_ne_true]
  by_cases h429 : r.status = 429
  · rw [if_pos h429]
    rfl
  · rw [if_neg h429]
    rfl

/-- An answer that is not a success comes to a failure, and that is the one that it means. -/
theorem refusal_means {σ : Type} (r : Http.Response) (hr : r.isSuccess = false)
    (answer : (q : Wire.Request) → σ → Wire.Answer q × σ) (s : σ) :
    ∃ f, ((bodyOf r).run answer s).1 = .error f ∧ ∀ f', Means r f' ↔ f' = f := by
  refine ⟨failureOf r, run_bodyOf_refusal answer s hr, fun f' => ⟨Means.eq_failureOf, ?_⟩⟩
  rintro rfl
  exact means_failureOf r

/-- A refusal whose body has two reasons, of which the second one is spelled with an escape. -/
def contradictory : Http.Response :=
  ⟨409, [], some (Text.encodeUtf8
    "\x7b\"error\": \"busy\", \"error\": \"b\\u0061nned\"\x7d".toList)⟩

/-- What is refused for two reasons is refused for the second one. -/
theorem banned_behind_busy :
    contradictory.isSuccess = false ∧ Means contradictory (.rejected "banned") := by
  have hsuccess : contradictory.isSuccess = false := rfl
  have hreason : failureOf contradictory = .rejected "banned" := by decide +kernel
  obtain ⟨f, hf, hmeans⟩ := refusal_means contradictory hsuccess (streamed fun _ => .closed) 0
  have hrun := (run_bodyOf_refusal _ _ hsuccess).symm.trans hf
  rw [hreason] at hrun
  exact ⟨hsuccess, (hmeans _).2 (Except.error.inj hrun)⟩

end Enrollment.Client
