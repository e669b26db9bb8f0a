import Enrollment.Client.Nodes
import Enrollment.Proofs.Plan.Transcript
import Enrollment.Release.Check
/-!
# Queries on the wire

What goes over the wire when a coordinator is asked something. Every query is made into one request,
which is sent, and sent again as long as that may help; what the outcome of the last attempt means is
what comes of the query.

Results:
 1. `course_sendOnce`: an attempt sends its request once, and ends with what the outcome means.
 2. `course_execute`: what holds of an attempt, and still holds when attempts that failed stand in
    front of it, holds of all attempts together.
 3. `Query.course_plan`: a query notes its URL and sends its request; what is left to do asks nothing.
 4. `Query.sent_of_made`: a query sends its request, at least once, and nothing else.
-/

namespace Enrollment.Client

open Document (Codec)
open Plan (Course course_bind course_done course_request)

variable {α : Type}

/-! ## What is sent, and what comes of it -/

def sent? : Exchange Wire → Option Http.Request
  | ⟨.send r _, _⟩ => some r
  | ⟨.wait _, _⟩ => none
  | ⟨.note _, _⟩ => none

/-- What came of the request of an exchange. -/
def outcome? : Exchange Wire → Option Http.Outcome
  | ⟨.send _ _, o⟩ => some o
  | ⟨.wait _, _⟩ => none
  | ⟨.note _, _⟩ => none

def sent (t : List (Exchange Wire)) : List Http.Request :=
  t.filterMap sent?

def outcomes (t : List (Exchange Wire)) : List Http.Outcome :=
  t.filterMap outcome?

@[simp] theorem sent_append (t u : List (Exchange Wire)) : sent (t ++ u) = sent t ++ sent u :=
  List.filterMap_append

@[simp] theorem outcomes_append (t u : List (Exchange Wire)) :
    outcomes (t ++ u) = outcomes t ++ outcomes u :=
  List.filterMap_append

@[simp] theorem sent_note (e : Log.Event) (reply : Unit) (t : List (Exchange Wire)) :
    sent (⟨.note e, reply⟩ :: t) = sent t := rfl

@[simp] theorem outcomes_note (e : Log.Event) (reply : Unit) (t : List (Exchange Wire)) :
    outcomes (⟨.note e, reply⟩ :: t) = outcomes t := rfl

@[simp] theorem sent_wait (s : Span) (reply : Unit) (t : List (Exchange Wire)) :
    sent (⟨.wait s, reply⟩ :: t) = sent t := rfl

/-! ## One attempt -/

def meaning (timeout : Span) (r : Http.Request) : Http.Outcome → Except Failure String
  | .answered a =>
    if a.isSuccess then
      match a.text? with
      | some body => .ok body
      | none => .error (.transport "error decoding response body")
    else .error (failureOf a)
  | o => .error (failureWithoutAnswer r timeout o)

theorem course_bodyOf (timeout : Span) (r : Http.Request) {a : Http.Response}
    {t : List (Exchange Wire)} {v : Except Failure String} (h : Course (bodyOf a) t v) :
    sent t = [] ∧ outcomes t = [] ∧ v = meaning timeout r (.answered a) := by
  unfold bodyOf at h
  by_cases hs : a.isSuccess = true
  · rw [if_pos hs] at h
    show _ ∧ _ ∧ v = if _ then _ else _
    rw [if_pos hs]
    cases hb : a.text? with
    | some body =>
      rw [hb] at h
      obtain ⟨rfl, rfl⟩ := course_done.1 h
      exact ⟨rfl, rfl, rfl⟩
    | none =>
      rw [hb] at h
      obtain ⟨rfl, rfl⟩ := course_done.1 h
      exact ⟨rfl, rfl, rfl⟩
  · rw [if_neg hs] at h
    show _ ∧ _ ∧ v = if _ then _ else _
    rw [if_neg hs]
    by_cases h429 : a.status = 429
    · rw [if_pos h429] at h
      obtain ⟨t₁, t₂, u, rfl, h₁, h₂⟩ := course_bind.1 h
      obtain rfl := course_request.1 h₁
      obtain ⟨rfl, rfl⟩ := course_done.1 h₂
      exact ⟨rfl, rfl, rfl⟩
    · rw [if_neg h429] at h
      obtain ⟨rfl, rfl⟩ := course_done.1 h
      exact ⟨rfl, rfl, rfl⟩

theorem course_sendOnce {timeout : Span} {r : Http.Request} {t : List (Exchange Wire)}
    {v : Except Failure String} (h : Course (sendOnce timeout (.ok r)) t v) :
    ∃ o, sent t = [r] ∧ outcomes t = [o] ∧ v = meaning timeout r o := by
  obtain ⟨t₁, t₂, o, rfl, h₁, h₂⟩ := course_bind.1 h
  obtain rfl := course_request.1 h₁
  refine ⟨o, ?_⟩
  cases o with
  | answered a =>
    obtain ⟨hsent, houtcomes, hv⟩ := course_bodyOf timeout r h₂
    refine ⟨?_, ?_, hv⟩
    · show r :: sent t₂ = [r]
      rw [hsent]
    · show _ :: outcomes t₂ = _
      rw [houtcomes]
  | _ =>
    obtain ⟨rfl, rfl⟩ := course_done.1 h₂
    exact ⟨rfl, rfl, rfl⟩

/-! ## All attempts -/

/-- What holds of an attempt, and still holds when an attempt that failed is in front of it, holds of
all attempts together. -/
theorem course_execute {retry : Retry} {once : Plan Wire (Except Failure α)}
    {P : List (Exchange Wire) → Except Failure α → Prop}
    (hlast : ∀ t v, Course once t v → P t v)
    (hagain : ∀ t₀ f e s t v, Course once t₀ (.error f) → retry.isWorthRetrying f = true → P t v →
      P (t₀ ++ ⟨.note e, ()⟩ :: ⟨.wait s, ()⟩ :: t) v)
    {left attempt : Nat} {t : List (Exchange Wire)} {v : Except Failure α}
    (h : Course (execute retry once left attempt) t v) : P t v := by
  induction left generalizing attempt t with
  | zero => exact hlast t v h
  | succ left ih =>
    obtain ⟨t₁, t₂, first, rfl, h₁, h₂⟩ := course_bind.1 h
    cases first with
    | ok a =>
      obtain ⟨rfl, rfl⟩ := course_done.1 h₂
      rw [List.append_nil]
      exact hlast t₁ _ h₁
    | error f =>
      by_cases hf : retry.isWorthRetrying f = true
      · dsimp only at h₂
        rw [if_pos hf] at h₂
        obtain ⟨t₃, t₄, _, rfl, h₃, h₄⟩ := course_bind.1 h₂
        obtain rfl := course_request.1 h₃
        obtain ⟨t₅, t₆, _, rfl, h₅, h₆⟩ := course_bind.1 h₄
        obtain rfl := course_request.1 h₅
        exact hagain t₁ f _ _ t₆ v h₁ hf (ih h₆)
      · dsimp only at h₂
        rw [if_neg hf] at h₂
        obtain ⟨rfl, rfl⟩ := course_done.1 h₂
        rw [List.append_nil]
        exact hlast t₁ _ h₁

/-- A request that cannot be made is a matter of transport. -/
theorem makeRequest_error {method : Http.Method} {url : String} {apiKey body : Option String}
    {f : Failure} (h : makeRequest method url apiKey body = .error f) :
    ∃ reason, f = .transport reason := by
  unfold makeRequest at h
  split at h
  · cases h
    exact ⟨_, rfl⟩
  · dsimp only at h
    split at h
    · cases h
      exact ⟨_, rfl⟩
    · split at h
      · cases h
      · cases h
        exact ⟨_, rfl⟩

/-- A token that may stand in a header. -/
def IsLegalKey (apiKey : Option String) : Prop :=
  (apiKey.map fun key => "Bearer " ++ key).all Http.isHeaderValue = true

/-- The user and the password of a URL are left in it or not. -/
theorem askedUrl_cases (u : Url) : askedUrl u = u ∨ askedUrl u = u.withoutCredentials := by
  unfold askedUrl
  split
  · exact .inr rfl
  · exact .inl rfl

/-- A request is that of its parts. -/
theorem makeRequest_ok {method : Http.Method} {url : String} {apiKey body : Option String}
    {r : Http.Request} (h : makeRequest method url apiKey body = .ok r) :
    r.method = method ∧ r.body = body ∧
      ∃ u, Url.parse url = .ok u ∧ r.url = askedUrl u ∧ Http.isTarget (askedUrl u) = true := by
  unfold makeRequest at h
  split at h
  · cases h
  · next u hu =>
    dsimp only at h
    split at h
    · cases h
    · split at h
      · next htarget =>
        cases h
        exact ⟨rfl, rfl, u, hu, rfl, htarget⟩
      · cases h

/-- A request is made only with a token that may stand in a header. -/
theorem isLegalKey_of_made {method : Http.Method} {url : String} {apiKey body : Option String}
    {r : Http.Request} (h : makeRequest method url apiKey body = .ok r) : IsLegalKey apiKey := by
  unfold makeRequest at h
  split at h
  · cases h
  · dsimp only at h
    split at h
    · cases h
    · next hkey =>
      rw [Bool.not_eq_true', Bool.not_eq_false] at hkey
      exact hkey

/-- A request can be made to a URL that requests may be sent to. -/
theorem makeRequest_isOk {method : Http.Method} {url : String} {apiKey body : Option String}
    {u : Url} (hu : Url.parse url = .ok u) (htarget : Http.isTarget (askedUrl u) = true)
    (hkey : IsLegalKey apiKey) : ∃ r, makeRequest method url apiKey body = .ok r := by
  unfold makeRequest
  rw [hu]
  dsimp only
  unfold IsLegalKey at hkey
  rw [hkey, if_neg (by decide), if_pos htarget]
  exact ⟨_, rfl⟩

/-- Without a request nothing is sent, and nothing is tried again. -/
theorem exchange_error {c : Connection} {codec : Codec α} {reason : String} :
    c.exchange codec (.error (.transport reason)) = .done (.error (.transport reason)) := by
  show execute _ (Plan.done _) _ _ = _
  cases c.retry.maxRetries.toNat with
  | zero => rfl
  | succ left => rfl

theorem course_exchange {c : Connection} {codec : Codec α} {r : Http.Request}
    {P : List (Exchange Wire) → Except Failure α → Prop}
    (hlast : ∀ t o, sent t = [r] → outcomes t = [o] →
      P t (decodeBody codec (meaning c.timeout r o)))
    (hagain : ∀ t₀ o e s t v, sent t₀ = [r] → outcomes t₀ = [o] → P t v →
      P (t₀ ++ ⟨.note e, ()⟩ :: ⟨.wait s, ()⟩ :: t) v)
    {t : List (Exchange Wire)} {v : Except Failure α}
    (h : Course (c.exchange codec (.ok r)) t v) : P t v := by
  refine course_execute ?_ ?_ h
  · intro t v h
    obtain ⟨t₁, t₂, body, rfl, h₁, h₂⟩ := course_bind.1 h
    obtain ⟨rfl, rfl⟩ := course_done.1 h₂
    obtain ⟨o, hsent, houtcomes, rfl⟩ := course_sendOnce h₁
    rw [List.append_nil]
    exact hlast t₁ o hsent houtcomes
  · intro t₀ f e s t v h _ hP
    obtain ⟨t₁, t₂, body, rfl, h₁, h₂⟩ := course_bind.1 h
    obtain ⟨rfl, -⟩ := course_done.1 h₂
    obtain ⟨o, hsent, houtcomes, rfl⟩ := course_sendOnce h₁
    rw [List.append_nil]
    exact hagain t₁ o e s t v hsent houtcomes hP

/-! ## Queries -/

/-- What a coordinator can be asked. -/
inductive Query
  | entryOf (address : Address)
  | register (request : Registration.Request)
  | activate (address : Address) (request : Activation.Request)
  | deactivate (address : Address)
  deriving DecidableEq

namespace Query

open Connection (nodesPath nodePath)

@[reducible] def Answer : Query → Type
  | entryOf _ => Node.Entry
  | register _ => Registration.Receipt
  | activate _ _ => Activation.Receipt
  | deactivate _ => Node.Entry

def codec : (q : Query) → Codec q.Answer
  | entryOf _ => Node.Entry.codec
  | register _ => Registration.Receipt.codec
  | activate _ _ => Activation.Receipt.codec
  | deactivate _ => Node.Entry.codec

def path : Query → String
  | entryOf a => nodePath a
  | register _ => nodesPath
  | activate a _ => nodePath a ++ "/activate"
  | deactivate a => nodePath a ++ "/deactivate"

def method : Query → Http.Method
  | entryOf _ => .get
  | _ => .post

def document? : Query → Option Document.Value
  | entryOf _ => none
  | register r => some (Registration.Request.codec.encode r)
  | activate _ r => some (Activation.Request.codec.encode r)
  | deactivate _ => some (.record [])

def made (c : Connection) (q : Query) : Except Failure Http.Request :=
  makeRequest q.method (c.urlOf q.path) c.apiKey (q.document?.map Json.compact)

/-- A query, put to the coordinator of a connection. -/
def plan (c : Connection) : (q : Query) → Plan Wire (Except Failure q.Answer)
  | entryOf a => c.entryOf a
  | register r => c.register r
  | activate a r => c.activate a r
  | deactivate a => c.deactivate a

/-- What comes of a query, given what comes of its request. -/
def settle : (q : Query) → Except Failure q.Answer → Except Failure q.Answer
  | entryOf a, .error (.notFound _) => .ok (.unknown a)
  | _, v => v

theorem settle_eq_error {q : Query} {v : Except Failure q.Answer} {f : Failure}
    (h : q.settle v = .error f) : v = .error f := by
  unfold settle at h
  split at h
  · cases h
  · exact h

/-- A query notes its URL, sends its request, and asks nothing more. -/
theorem course_plan {c : Connection} {q : Query} {t : List (Exchange Wire)}
    {v : Except Failure q.Answer} (h : Course (q.plan c) t v) :
    ∃ e t₁ t₂ w, t = ⟨.note e, ()⟩ :: t₁ ++ t₂ ∧ sent t₂ = [] ∧ outcomes t₂ = [] ∧
      Course (c.exchange q.codec (q.made c)) t₁ w ∧ v = q.settle w := by
  cases q with
  | entryOf a =>
    obtain ⟨t₁, t₂, w, rfl, h₁, h₂⟩ := course_bind.1 h
    obtain ⟨t₃, t₄, _, rfl, h₃, h₄⟩ := course_bind.1 h₁
    obtain rfl := course_request.1 h₃
    refine ⟨_, t₄, t₂, w, rfl, ?_⟩
    split at h₂
    · obtain ⟨t₅, t₆, _, rfl, h₅, h₆⟩ := course_bind.1 h₂
      obtain rfl := course_request.1 h₅
      obtain ⟨rfl, rfl⟩ := course_done.1 h₆
      exact ⟨rfl, rfl, h₄, rfl⟩
    · next hw =>
      obtain ⟨rfl, rfl⟩ := course_done.1 h₂
      refine ⟨rfl, rfl, h₄, ?_⟩
      cases v with
      | ok e => rfl
      | error f =>
        cases f with
        | notFound resource => exact absurd rfl (hw resource)
        | _ => rfl
  | register r =>
    obtain ⟨t₁, t₂, _, rfl, h₁, h₂⟩ := course_bind.1 h
    obtain rfl := course_request.1 h₁
    exact ⟨_, t₂, [], v, (List.append_nil _).symm, rfl, rfl, h₂, rfl⟩
  | activate a r =>
    obtain ⟨t₁, t₂, _, rfl, h₁, h₂⟩ := course_bind.1 h
    obtain rfl := course_request.1 h₁
    exact ⟨_, t₂, [], v, (List.append_nil _).symm, rfl, rfl, h₂, rfl⟩
  | deactivate a =>
    obtain ⟨t₁, t₂, _, rfl, h₁, h₂⟩ := course_bind.1 h
    obtain rfl := course_request.1 h₁
    exact ⟨_, t₂, [], v, (List.append_nil _).symm, rfl, rfl, h₂, rfl⟩

/-- A query whose request cannot be made sends nothing. -/
theorem sent_of_error {c : Connection} {q : Query} {f : Failure} (hmade : q.made c = .error f)
    {t : List (Exchange Wire)} {v : Except Failure q.Answer} (h : Course (q.plan c) t v) :
    sent t = [] := by
  obtain ⟨e, t₁, t₂, w, rfl, ht₂, -, hw, -⟩ := course_plan h
  obtain ⟨reason, rfl⟩ := makeRequest_error hmade
  rw [hmade, exchange_error] at hw
  obtain ⟨rfl, -⟩ := course_done.1 hw
  exact ht₂

/-- A query sends its request, at least once, and nothing else. -/
theorem sent_of_made {c : Connection} {q : Query} {r : Http.Request} (hmade : q.made c = .ok r)
    {t : List (Exchange Wire)} {v : Except Failure q.Answer} (h : Course (q.plan c) t v) :
    ∃ n, sent t = List.replicate (n + 1) r := by
  obtain ⟨e, t₁, t₂, w, rfl, ht₂, -, hw, -⟩ := course_plan h
  rw [sent_append, ht₂, List.append_nil, sent_note]
  rw [hmade] at hw
  refine course_exchange (P := fun t _ => ∃ n, sent t = List.replicate (n + 1) r) ?_ ?_ hw
  · intro t o hsent _
    exact ⟨0, hsent⟩
  · rintro t₀ o e s t v hsent _ ⟨n, ih⟩
    refine ⟨n + 1, ?_⟩
    rw [sent_append, hsent, sent_note, sent_wait, ih]
    rfl

end Query

end Enrollment.Client
