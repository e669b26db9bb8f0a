import Enrollment.Proofs.Client.Queries
import Enrollment.Proofs.Plan.Asking
/-!
# What clients send

What may go over the wire, whatever is answered: a query sends the request that was made for it, however
often, and nothing else; a text is asked for once.

Results:
 1. `Query.only_plan`: a query sends its request and no other.
 2. `sendsOnce_sendOnce`, `SendsOnce.bind`: what sends one request, once.
 3. `Query.made_of_told`: what is told was asked for in a request.
-/

namespace Enrollment.Client

open Plan (Only)

variable {α β : Type}

def WireRequest.IsNote : WireRequest → Prop
  | note _ => True
  | _ => False

/-- If something is sent, it is of a kind. -/
def WireRequest.Sends (P : Http.Request → Prop) : WireRequest → Prop
  | send r _ => P r
  | _ => True

theorem WireRequest.IsNote.sends {P : Http.Request → Prop} {r : WireRequest} (h : r.IsNote) :
    r.Sends P := by
  cases r with
  | note e => trivial
  | _ => cases h

/-! ## Notes -/

theorem only_note {level : Log.Level} {message : String} {fields : List (String × String)} :
    Only WireRequest.IsNote (Wire.note level message fields) :=
  Plan.only_request trivial

theorem only_bodyOf (a : Http.Response) : Only WireRequest.IsNote (bodyOf a) := by
  unfold bodyOf
  split
  · split
    · exact Plan.only_done
    · exact Plan.only_done
  · split
    · exact Only.bind only_note fun _ => Plan.only_done
    · exact Plan.only_done

/-! ## One request among notes -/

/-- A plan sends one request once and does nothing else but note; if the request cannot be made, it
does nothing else at all. -/
def SendsOnce (timeout : Span) (made : Except Failure Http.Request) (p : Plan Wire α) : Prop :=
  match made with
  | .error _ => Only WireRequest.IsNote p
  | .ok r => ∃ (before : Plan Wire Unit) (behind : Http.Outcome → Plan Wire α),
      p = before.bind (fun _ => (Wire.send r timeout).bind behind) ∧
        Only WireRequest.IsNote before ∧ ∀ o, Only WireRequest.IsNote (behind o)

variable {timeout : Span} {made : Except Failure Http.Request} {p : Plan Wire α}

theorem SendsOnce.bind (h : SendsOnce timeout made p) {f : α → Plan Wire β}
    (hf : ∀ a, Only WireRequest.IsNote (f a)) : SendsOnce timeout made (p.bind f) := by
  cases made with
  | error _ => exact Only.bind h hf
  | ok r =>
    obtain ⟨before, behind, rfl, hbefore, hbehind⟩ := h
    refine ⟨before, fun o => (behind o).bind f, ?_, hbefore, fun o => (hbehind o).bind hf⟩
    rw [Plan.bind_assoc]
    rfl

theorem SendsOnce.behind_note (h : SendsOnce timeout made p) {note : Plan Wire Unit}
    (hnote : Only WireRequest.IsNote note) : SendsOnce timeout made (note.bind fun _ => p) := by
  cases made with
  | error _ => exact hnote.bind fun _ => h
  | ok r =>
    obtain ⟨before, behind, rfl, hbefore, hbehind⟩ := h
    refine ⟨note.bind fun _ => before, behind, ?_, hnote.bind fun _ => hbefore, hbehind⟩
    rw [Plan.bind_assoc]

theorem sendsOnce_sendOnce : SendsOnce timeout made (sendOnce timeout made) := by
  cases made with
  | error f => trivial
  | ok r =>
    refine ⟨.done (), _, rfl, Plan.only_done, fun o => ?_⟩
    cases o with
    | answered a => exact only_bodyOf a
    | _ => exact Plan.only_done

theorem SendsOnce.only (h : SendsOnce timeout made p) {P : Http.Request → Prop}
    (hP : ∀ r, made = .ok r → P r) : Only (WireRequest.Sends P) p := by
  cases made with
  | error _ => exact Only.mono h fun _ hr => hr.sends
  | ok r =>
    obtain ⟨before, behind, rfl, hbefore, hbehind⟩ := h
    refine (hbefore.mono fun _ hr => hr.sends).bind fun _ => ?_
    have hsend : Only (WireRequest.Sends P) (Wire.send r timeout) := Plan.only_request (hP r rfl)
    exact hsend.bind fun o => (hbehind o).mono fun _ hr => hr.sends

/-! ## All attempts -/

/-- Whatever an attempt sends, all attempts together send. -/
theorem only_execute {P : Http.Request → Prop} {once : Plan Wire (Except Failure α)}
    (honce : Only (WireRequest.Sends P) once) (retry : Retry) (left attempt : Nat) :
    Only (WireRequest.Sends P) (execute retry once left attempt) := by
  induction left generalizing attempt with
  | zero => exact honce
  | succ left ih =>
    refine honce.bind fun first => ?_
    cases first with
    | ok a => exact Plan.only_done
    | error f =>
      dsimp only
      split
      · refine Only.bind (only_note.mono fun _ hr => hr.sends) fun _ => ?_
        have hwait : ∀ s, Only (WireRequest.Sends P) (Wire.wait s) :=
          fun s => Plan.only_request trivial
        exact (hwait _).bind fun _ => ih (attempt + 1)
      · exact Plan.only_done

theorem only_exchange {c : Connection} {codec : Document.Codec α} {P : Http.Request → Prop}
    (hP : ∀ r, made = .ok r → P r) : Only (WireRequest.Sends P) (c.exchange codec made) :=
  only_execute ((sendsOnce_sendOnce.only hP).bind fun _ => Plan.only_done) c.retry _ _

/-- A query sends the request that was made for it, and no other. -/
theorem Query.only_plan (c : Connection) (q : Query) :
    Only (WireRequest.Sends fun r => q.made c = .ok r) (q.plan c) := by
  have hasked : Only (WireRequest.Sends fun r => q.made c = .ok r)
      (c.exchange q.codec (q.made c)) := only_exchange fun _ h => h
  have hnote : ∀ level message fields,
      Only (WireRequest.Sends fun r => q.made c = .ok r) (Wire.note level message fields) :=
    fun _ _ _ => only_note.mono fun _ hr => hr.sends
  cases q with
  | entryOf a =>
    refine Only.bind ((hnote _ _ _).bind fun _ => hasked) fun read => ?_
    split
    · exact (hnote _ _ _).bind fun _ => Plan.only_done
    · exact Plan.only_done
  | register r => exact (hnote _ _ _).bind fun _ => hasked
  | activate a r => exact (hnote _ _ _).bind fun _ => hasked
  | deactivate a => exact (hnote _ _ _).bind fun _ => hasked

/-! ## Requests of queries -/

namespace Query

variable {c : Connection} {q : Query} {requests : List Http.Request} {t : List (Exchange Wire)}

/-- What is sent for a query: its request, at least once, if that can be made. -/
def Sends (c : Connection) (q : Query) (requests : List Http.Request) : Prop :=
  match q.made c with
  | .ok r => ∃ n, requests = List.replicate (n + 1) r
  | .error _ => requests = []

theorem sends_of_course {v : Except Failure q.Answer} (h : Plan.Course (q.plan c) t v) :
    q.Sends c (sent t) := by
  unfold Sends
  cases hmade : q.made c with
  | ok r => exact sent_of_made hmade h
  | error f => exact sent_of_error hmade h

/-- A query is sent in copies of its request. -/
theorem Sends.made_of_mem (h : q.Sends c requests) : ∀ r ∈ requests, q.made c = .ok r := by
  intro r hr
  unfold Sends at h
  split at h
  · next made hmade =>
    obtain ⟨n, rfl⟩ := h
    rw [hmade, List.eq_of_mem_replicate hr]
  · rw [h] at hr
    cases hr

theorem Sends.ne_nil (h : q.Sends c requests) {r : Http.Request} (hmade : q.made c = .ok r) :
    requests ≠ [] := by
  unfold Sends at h
  rw [hmade] at h
  obtain ⟨n, rfl⟩ := h
  exact List.cons_ne_nil _ _

/-- A query is answered with a value only if its request can be made. -/
theorem made_of_told {v : q.Answer} (h : Plan.Course (q.plan c) t (.ok v)) :
    ∃ r, q.made c = .ok r := by
  cases hmade : q.made c with
  | ok r => exact ⟨r, rfl⟩
  | error f =>
    obtain ⟨e, t₁, t₂, w, -, -, -, hw, hv⟩ := course_plan h
    obtain ⟨reason, rfl⟩ := makeRequest_error hmade
    rw [hmade, exchange_error] at hw
    obtain ⟨-, rfl⟩ := Plan.course_done.1 hw
    cases q <;> cases hv

end Query

end Enrollment.Client
