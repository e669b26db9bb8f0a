import Enrollment.Http.Message
import Enrollment.Url.Reference
/-!
# Redirects

An answer may send a client on to another URL. The client goes there by itself, unless it was sent on too
often before, and what comes of its request is what comes of the last request on the way.

Main statements: a request is followed by as many others as are allowed at most (`requests_follow`), and
by none if its answer sends nobody on (`follow_of_final`).
-/

namespace Enrollment.Http

/-- How often a client lets itself be sent on. -/
def onwardLimit : Nat := 10

/-- Whether a code sends a client on to ask for something, whatever it came for. -/
def isChangeOfMind (status : Nat) : Bool :=
  status ∈ [301, 302, 303]

/-- Whether a code sends a client on with what it came for. -/
def isChangeOfPlace (status : Nat) : Bool :=
  status ∈ [307, 308]

/-- Where an answer sends a client on to that came to a URL. A place on the web to which no request may
be sent is none. -/
def Response.onward? (a : Response) (here : Url) : Option Url :=
  if isChangeOfMind a.status || isChangeOfPlace a.status then
    match (a.header? "location").map here.join with
    | some (.ok u) => if u.isWeb && !isTarget u then none else some u
    | _ => none
  else none

/-- Whether two URLs are served by one host at one port. -/
def isSameServer (u v : Url) : Bool :=
  let seat (u : Url) := u.authority.map fun a => (a.host, a.port.or (Url.usualPort? u.scheme))
  seat u == seat v

/-- The request with which a client goes on. What proves that it may be done is for one server only. -/
def Request.onward (r : Request) (status : Nat) (here u : Url) : Request where
  method := if isChangeOfMind status then .get else r.method
  url := u.withoutCredentials
  authorization := if isSameServer here u then r.authorization else none
  userAgent := r.userAgent
  body := if isChangeOfMind status then none else r.body

def Outcome.behind (url : Url) : Outcome → Outcome
  | unreachable => .astray .unreachable url
  | closed => .astray .closed url
  | o => o

/-- What a request leads to. -/
structure Journey (ν : Type) where
  /-- All requests that are sent, in order. -/
  requests : List Request
  outcome : Outcome
  network : ν

variable {ν : Type}

/-- Sends a request to a URL, and goes where the answers send the client on to. -/
def follow (exchange : Request → ν → Outcome × ν) : Nat → Url → Request → ν → Journey ν
  | left, here, r, n =>
    match exchange r n with
    | (.answered a, n) =>
      match a.onward? here, left with
      | none, _ => ⟨[r], .answered a, n⟩
      | some _, 0 => ⟨[r], .astray .endless here, n⟩
      | some u, left + 1 =>
        if u.isWeb then
          let rest := follow exchange left u (r.onward a.status here u) n
          ⟨r :: rest.requests, rest.outcome.behind u, rest.network⟩
        else ⟨[r], .astray .foreign u, n⟩
    | (o, n) => ⟨[r], o, n⟩

/-- What comes of a request on a network that answers by what `exchange` says. -/
def journey (exchange : Request → ν → Outcome × ν) (r : Request) (n : ν) : Journey ν :=
  follow exchange onwardLimit r.url r n

variable {exchange : Request → ν → Outcome × ν}

/-- On the way there are the request, and at most as many others as are allowed. -/
theorem requests_follow (left : Nat) (here : Url) (r : Request) (n : ν) :
    ∃ others, (follow exchange left here r n).requests = r :: others ∧ others.length ≤ left := by
  induction left generalizing here r n with
  | zero =>
    unfold follow
    split
    · split
      · exact ⟨[], rfl, Nat.le_refl 0⟩
      · exact ⟨[], rfl, Nat.le_refl 0⟩
      · next h => cases h
    · exact ⟨[], rfl, Nat.le_refl 0⟩
  | succ left ih =>
    unfold follow
    split
    · split
      · exact ⟨[], rfl, Nat.zero_le _⟩
      · next h => cases h
      · next a n' _ _ _ u left' _ h =>
        obtain rfl := Nat.succ.inj h
        split
        · obtain ⟨others, hothers, hlength⟩ := ih u (r.onward a.status here u) n'
          refine ⟨_, rfl, ?_⟩
          rw [hothers]
          exact Nat.succ_le_succ hlength
        · exact ⟨[], rfl, Nat.zero_le _⟩
    · exact ⟨[], rfl, Nat.zero_le _⟩

/-- An answer that sends nobody on is what comes of a request. -/
theorem follow_of_final {left : Nat} {here : Url} {r : Request} {n n' : ν} {a : Response}
    (hanswer : exchange r n = (.answered a, n')) (hfinal : a.onward? here = none) :
    follow exchange left here r n = ⟨[r], .answered a, n'⟩ := by
  unfold follow
  rw [hanswer]
  dsimp only
  rw [hfinal]

end Enrollment.Http
