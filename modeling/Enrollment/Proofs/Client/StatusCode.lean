import Enrollment.Proofs.Client.Queries
/-!
# Status codes of failures

A failure is made of the answer to the last request, and its status code is read back from it later.
Answers with the codes 403 and 422 are failures of the classes of 401 and 409, and are told by those
codes; all other codes are told as they are.

Results:
 1. `Call.tells`: how a call ends agrees with what came of its last request.
 2. `failure_tells_last_answer`: the status code of a failure is that of the last answer, unless that
    is 403 or 422; there is none if the last request was not answered.
-/

namespace Enrollment.Client

open Plan (Course course_bind course_done course_request course_transcript)

variable {α β : Type}

/-- The code by which a refusal is told: two of them have the code of their class. -/
def toldCode (code : Nat) : Nat :=
  if code = 403 then 401 else if code = 422 then 409 else code

theorem toldCode_eq_self_iff (code : Nat) : toldCode code = code ↔ code ≠ 403 ∧ code ≠ 422 := by
  unfold toldCode
  split
  · omega
  · split <;> omega

def refusedCode? : Http.Outcome → Option Nat
  | .answered a => if a.isSuccess then none else some a.status
  | _ => none

/-- The code of the answer to the last request, if that was refused. -/
def lastRefused? (t : List (Exchange Wire)) : Option Nat :=
  (outcomes t).getLast?.bind refusedCode?

/-- A value agrees with a transcript: what is no failure does not stand behind a refusal, and a
failure has the code of the refusal that it stands behind. -/
def Tells (t : List (Exchange Wire)) : Except Failure α → Prop
  | .ok _ => lastRefused? t = none
  | .error f => f.statusCode? = (lastRefused? t).map toldCode

theorem tells_congr {t u : List (Exchange Wire)} (h : outcomes t = outcomes u)
    {v : Except Failure α} (hv : Tells t v) : Tells u v := by
  have hlast : lastRefused? u = lastRefused? t := by
    unfold lastRefused?
    rw [h]
  cases v with
  | ok a => exact hlast.trans hv
  | error f =>
    show _ = Option.map _ _
    rw [hlast]
    exact hv

/-- Only the last attempt counts. -/
theorem tells_append {t u : List (Exchange Wire)} (h : outcomes u ≠ []) {v : Except Failure α}
    (hv : Tells u v) : Tells (t ++ u) v := by
  have hlast : lastRefused? (t ++ u) = lastRefused? u := by
    unfold lastRefused?
    rw [outcomes_append, List.getLast?_append, Option.or_of_isSome (List.getLast?_isSome.2 h)]
  cases v with
  | ok a => exact hlast.trans hv
  | error f =>
    show _ = Option.map _ _
    rw [hlast]
    exact hv

/-! ## From the answer to the failure -/

/-- A failure for want of an answer has no code. -/
theorem tells_unanswered {t : List (Exchange Wire)} (h : lastRefused? t = none) (r : Http.Request)
    (timeout : Span) (o : Http.Outcome) :
    Tells t (.error (failureWithoutAnswer r timeout o) : Except Failure α) := by
  show (failureWithoutAnswer r timeout o).statusCode? = Option.map _ _
  rw [h]
  cases o with
  | astray obstacle url => cases obstacle <;> rfl
  | _ => rfl

theorem tells_meaning {timeout : Span} {r : Http.Request} {t : List (Exchange Wire)}
    {o : Http.Outcome} (h : outcomes t = [o]) : Tells t (meaning timeout r o) := by
  have hlast : lastRefused? t = refusedCode? o := by
    unfold lastRefused?
    rw [h]
    rfl
  cases o with
  | answered a =>
    by_cases hs : a.isSuccess = true
    · have hnone : lastRefused? t = none := by rw [hlast, refusedCode?, if_pos hs]
      rw [meaning, if_pos hs]
      cases a.text? with
      | some body => exact hnone
      | none =>
        show none = Option.map _ _
        rw [hnone]
        rfl
    · rw [meaning, if_neg hs]
      show (failureOf a).statusCode? = Option.map _ _
      rw [hlast, refusedCode?, if_neg hs]
      exact failureOf_statusCode? a
  | unreachable => exact tells_unanswered hlast r timeout .unreachable
  | closed => exact tells_unanswered hlast r timeout .closed
  | timedOut => exact tells_unanswered hlast r timeout .timedOut
  | astray obstacle url => exact tells_unanswered hlast r timeout (.astray obstacle url)

/-- A value that agrees with a transcript may be read once more, if what is not understood then is a
failure without a code. -/
theorem tells_read {t : List (Exchange Wire)} {v : Except Failure α} (h : Tells t v)
    {read : α → Except Failure β} (hread : ∀ a f, read a = .error f → f.statusCode? = none) :
    Tells t (v >>= read) := by
  cases v with
  | error f => exact h
  | ok a =>
    show Tells t (read a)
    have hnone : lastRefused? t = none := h
    cases ha : read a with
    | ok b => exact hnone
    | error f =>
      show _ = Option.map _ _
      rw [hnone, hread a f ha]
      rfl

theorem tells_decodeBody {t : List (Exchange Wire)} {codec : Document.Codec α}
    {v : Except Failure String} (h : Tells t v) : Tells t (decodeBody codec v) := by
  have heq : decodeBody codec v = v >>= fun body => decodeBody codec (.ok body) := by
    cases v <;> rfl
  rw [heq]
  refine tells_read h ?_
  intro body f hf
  unfold decodeBody at hf
  split at hf
  · cases hf
    contradiction
  · split at hf
    · cases hf
    · cases hf
      rfl

/-! ## Calls -/

inductive Call
  | query (q : Query)
  | latestRelease (url : String)
  deriving DecidableEq

namespace Call

@[reducible] def Answer : Call → Type
  | query q => q.Answer
  | latestRelease _ => String

def plan (c : Connection) : (k : Call) → Plan Wire (Except Failure k.Answer)
  | query q => q.plan c
  | latestRelease url => Release.latest c url

/-- Every attempt agrees with its outcome, and no attempt is forgotten. -/
theorem tells_exchange {c : Connection} {codec : Document.Codec α} {made : Except Failure Http.Request}
    (hmade : ∀ f, made = .error f → ∃ reason, f = .transport reason) {t : List (Exchange Wire)}
    {v : Except Failure α} (h : Course (c.exchange codec made) t v) : Tells t v := by
  cases made with
  | error f =>
    obtain ⟨reason, rfl⟩ := hmade f rfl
    rw [exchange_error] at h
    obtain ⟨rfl, rfl⟩ := course_done.1 h
    rfl
  | ok r =>
    have hboth : outcomes t ≠ [] ∧ Tells t v := by
      refine course_exchange (P := fun t v => outcomes t ≠ [] ∧ Tells t v) ?_ ?_ h
      · intro t o _ ho
        refine ⟨?_, tells_decodeBody (tells_meaning ho)⟩
        rw [ho]
        exact List.cons_ne_nil _ _
      · rintro t₀ o e s t v _ _ ⟨hne, htells⟩
        have hne' : outcomes (⟨.note e, ()⟩ :: ⟨.wait s, ()⟩ :: t) ≠ [] := hne
        refine ⟨?_, tells_append hne' (tells_congr rfl htells)⟩
        rw [outcomes_append]
        exact List.append_ne_nil_of_right_ne_nil _ hne'
    exact hboth.2

theorem tells_getText {c : Connection} {url : String} {t : List (Exchange Wire)}
    {v : Except Failure String} (h : Course (c.getText url) t v) : Tells t v := by
  obtain ⟨t₁, t₂, _, rfl, h₁, h₂⟩ := course_bind.1 h
  obtain rfl := course_request.1 h₁
  cases hmade : makeRequest .get url none none with
  | error f =>
    obtain ⟨reason, rfl⟩ := makeRequest_error hmade
    rw [hmade] at h₂
    obtain ⟨rfl, rfl⟩ := course_done.1 h₂
    rfl
  | ok r =>
    rw [hmade] at h₂
    obtain ⟨o, -, ho, rfl⟩ := course_sendOnce h₂
    exact tells_meaning ho

/-- A failed call has the code of the last refusal. -/
theorem tells {c : Connection} {k : Call} {t : List (Exchange Wire)} {f : Failure}
    (h : Course (k.plan c) t (.error f)) : f.statusCode? = (lastRefused? t).map toldCode := by
  cases k with
  | query q =>
    obtain ⟨e, t₁, t₂, w, rfl, -, ht₂, hw, hsettle⟩ := Query.course_plan h
    obtain rfl := Query.settle_eq_error hsettle.symm
    have htells : Tells t₁ (.error f : Except Failure q.Answer) :=
      tells_exchange (fun f hf => makeRequest_error hf) hw
    refine tells_congr (α := q.Answer) ?_ htells
    rw [outcomes_append, ht₂, List.append_nil, outcomes_note]
  | latestRelease url =>
    obtain ⟨t₁, t₂, manifest, rfl, h₁, h₂⟩ := course_bind.1 h
    have htells := tells_getText h₁
    cases manifest with
    | error f' =>
      obtain ⟨rfl, hf⟩ := course_done.1 h₂
      cases hf
      rw [List.append_nil]
      exact htells
    | ok manifest =>
      have hnone : lastRefused? t₁ = none := htells
      dsimp only at h₂
      split at h₂
      · obtain ⟨-, hf⟩ := course_done.1 h₂
        cases hf
      · obtain ⟨rfl, hf⟩ := course_done.1 h₂
        cases hf
        rw [List.append_nil, hnone]
        rfl

end Call

/-- Whatever a client is called for, however often it tries, and whatever it is answered: a failed
call whose last request was refused has the code of that refusal exactly if that is neither 403 nor
422, and else the code of its class. If the last request was not answered there is no code. -/
theorem failure_tells_last_answer (c : Connection) (k : Call) {σ : Type}
    (answer : (r : WireRequest) → σ → Wire.Answer r × σ) (s : σ) (f : Failure)
    (h : ((k.plan c).run answer s).1 = .error f) :
    let last := (outcomes ((k.plan c).transcript answer s)).getLast?
    (∀ a, last = some (.answered a) → a.isSuccess = false →
      f.statusCode? = some (toldCode a.status) ∧
      (f.statusCode? = some a.status ↔ a.status ≠ 403 ∧ a.status ≠ 422)) ∧
    ((∀ a, last ≠ some (.answered a)) → f.statusCode? = none) := by
  intro last
  have hcourse := course_transcript answer (k.plan c) s
  rw [h] at hcourse
  have hcode : f.statusCode? = (last.bind refusedCode?).map toldCode := Call.tells hcourse
  constructor
  · intro a hlast hs
    have htold : f.statusCode? = some (toldCode a.status) := by
      rw [hcode, hlast, Option.bind_some, refusedCode?, if_neg (by rw [hs]; decide), Option.map_some]
    refine ⟨htold, ?_⟩
    rw [htold, Option.some_inj]
    exact toldCode_eq_self_iff a.status
  · intro hlast
    rw [hcode]
    cases ho : last with
    | none => rfl
    | some o =>
      cases o with
      | answered a => exact absurd ho (hlast a)
      | _ => rfl

/-- Surroundings with an outcome for every request written down before. -/
def scripted : (r : WireRequest) → List Http.Outcome → Wire.Answer r × List Http.Outcome
  | .send _ _, script => (script.head?.getD .unreachable, script.tail)
  | .wait _, script => ((), script)
  | .note _, script => ((), script)

def persistent : Connection where
  baseUrl := "http://[::1]"
  retry := { maxRetries := 1 }

/-- No answer in time, and then an answer of the code 403: what is told is 401. -/
theorem forbidden_told_as_unauthorized :
    let k := Call.query (.deactivate ⟨List.replicate 40 0, rfl⟩)
    let script := [.timedOut, .answered ⟨403, [], some []⟩]
    let t := (k.plan persistent).transcript scripted script
    (outcomes t).getLast? = some (.answered ⟨403, [], some []⟩) ∧
      Failure.unauthorized.statusCode? = some (toldCode 403) := by
  intro k script t
  have hlast : (outcomes t).getLast? = some (.answered ⟨403, [], some []⟩) := by rfl
  have hrun : ((k.plan persistent).run scripted script).1 = .error .unauthorized := by rfl
  exact ⟨hlast, ((failure_tells_last_answer persistent k scripted script _ hrun).1 _ hlast rfl).1⟩

end Enrollment.Client
