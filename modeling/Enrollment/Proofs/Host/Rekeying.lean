import Enrollment.Proofs.Client.Authorization
import Enrollment.Proofs.Client.Sending
import Enrollment.Proofs.Host.Parts
/-!
# Plans with another token

A plan with another token is the same plan with other requests: where a request carries the one token it
carries the other, and everything else is asked as before. So two runs that differ in their token can be
told apart by their requests alone, as long as the network does not look at what they carry.

Results:
 1. `Client.Query.plan_rekeyed`: a query over a connection with another token.
 2. `Host.onLifecycle_rekeyed`: an operation over such a connection.
 3. `Host.Parts.run_rekeyed`: on a network that does not look at tokens, it runs as before.
 4. `Host.sent_rekeyed`, `Host.noted_rekeyed`, `Host.printed_rekeyed`: what is seen of it.
-/

namespace Enrollment

open Plan (Only)

variable {α β σ : Type}

/-! ## Clients -/

namespace Client

/-- A question of a client, with another token in the place of one. -/
def WireRequest.rekeyed (key key' : String) : (r : WireRequest) → Plan Wire r.Answer
  | .send r timeout => Wire.send (Client.rekeyed key key' r) timeout
  | .wait s => Wire.wait s
  | .note e => Plan.request (I := Wire) (.note e)

variable (key key' : String)

theorem note_rekeyed {p : Plan Wire α} (h : Only WireRequest.IsNote p) :
    p.implementBy (WireRequest.rekeyed key key') = p := by
  refine Only.implementBy_eq (h.mono fun r hr => ?_)
  cases r with
  | note e => rfl
  | _ => cases hr

/-- What an outcome that is no answer means does not depend on the token. -/
theorem failureWithoutAnswer_rekeyed (r : Http.Request) (timeout : Span) (o : Http.Outcome) :
    failureWithoutAnswer (rekeyed key key' r) timeout o = failureWithoutAnswer r timeout o := by
  unfold rekeyed
  split
  · rfl
  · rfl

theorem sendOnce_rekeyed (timeout : Span) (made : Except Failure Http.Request) :
    (sendOnce timeout made).implementBy (WireRequest.rekeyed key key') =
      sendOnce timeout (made.map (rekeyed key key')) := by
  cases made with
  | error f => rfl
  | ok r =>
    have hfailure := fun o => congrArg (fun f => Plan.done (I := Wire) (Except.error f : Except Failure String))
      (failureWithoutAnswer_rekeyed key key' r timeout o).symm
    refine congrArg (Plan.ask (I := Wire) (.send (rekeyed key key' r) timeout)) (funext fun o => ?_)
    cases o with
    | answered a => exact note_rekeyed key key' (only_bodyOf a)
    | unreachable => exact hfailure .unreachable
    | closed => exact hfailure .closed
    | timedOut => exact hfailure .timedOut
    | astray obstacle url => exact hfailure (.astray obstacle url)

/-- Whatever is done to an attempt is done to all of them, if it leaves notes and waits as they are. -/
theorem execute_rekeyed (retry : Retry) (once : Plan Wire (Except Failure α)) (left attempt : Nat) :
    (execute retry once left attempt).implementBy (WireRequest.rekeyed key key') =
      execute retry (once.implementBy (WireRequest.rekeyed key key')) left attempt := by
  induction left generalizing attempt with
  | zero => rfl
  | succ left ih =>
    unfold execute
    rw [Plan.bind_eq, Plan.bind_eq, Plan.implementBy_bind]
    refine congrArg _ (funext fun first => ?_)
    cases first with
    | ok a => rfl
    | error f =>
      dsimp only
      split
      · exact congrArg (fun again => Plan.bind _ fun _ : Unit => Plan.bind _ fun _ : Unit => again)
          (ih (attempt + 1))
      · rfl

theorem exchange_rekeyed (c : Connection) (codec : Document.Codec α)
    (made : Except Failure Http.Request) :
    (c.exchange codec made).implementBy (WireRequest.rekeyed key key') =
      c.exchange codec (made.map (rekeyed key key')) := by
  unfold Connection.exchange
  rw [execute_rekeyed, Plan.bind_eq, Plan.implementBy_bind, sendOnce_rekeyed]
  rfl

def Connection.withKey (c : Connection) (key : String) : Connection :=
  { c with apiKey := some key }

/-- A query over a connection with another token asks the same, with that one. -/
theorem Query.plan_rekeyed {key key' : String} (hkey : Http.isHeaderValue key = true)
    (hkey' : Http.isHeaderValue key' = true) (c : Connection) (q : Query) :
    (q.plan (c.withKey key)).implementBy (WireRequest.rekeyed key key') =
      q.plan (c.withKey key') := by
  have hasked : ((c.withKey key).exchange q.codec (q.made (c.withKey key))).implementBy
      (WireRequest.rekeyed key key') = (c.withKey key').exchange q.codec (q.made (c.withKey key')) := by
    rw [exchange_rekeyed]
    exact congrArg ((c.withKey key').exchange q.codec)
      (makeRequest_rekeyed hkey hkey' q.method _ _).symm
  have hnoted : ∀ (level : Log.Level) (message : String) (fields : List (String × String)),
      ((Wire.note level message fields).bind fun _ =>
        (c.withKey key).exchange q.codec (q.made (c.withKey key))).implementBy
        (WireRequest.rekeyed key key') =
      (Wire.note level message fields).bind fun _ =>
        (c.withKey key').exchange q.codec (q.made (c.withKey key')) := by
    intro level message fields
    rw [Plan.implementBy_bind, hasked, note_rekeyed key key' only_note]
  cases q with
  | entryOf a =>
    have hget : ((c.withKey key).get Node.Entry.codec (Connection.nodePath a)).implementBy
        (WireRequest.rekeyed key key') =
        (c.withKey key').get Node.Entry.codec (Connection.nodePath a) := hnoted _ _ _
    refine (Plan.implementBy_bind _ _ _).trans ?_
    rw [hget]
    refine congrArg _ (funext fun read => note_rekeyed key key' ?_)
    split
    · exact Only.bind only_note fun _ => Plan.only_done
    · exact Plan.only_done
  | register r => exact hnoted _ _ _
  | activate a r => exact hnoted _ _ _
  | deactivate a => exact hnoted _ _ _

end Client

/-! ## Hosts -/

namespace Host

/-- A question to a host, with another token in the place of one. -/
def Step.rekeyed (key key' : String) : (s : Host.Step) → Plan Host s.Answer
  | .wire r => onWire (r.rekeyed key key')
  | s => Plan.request (I := Host) s

/-- A plan on a host, with another token in the place of one. -/
def rekeyed (key key' : String) (p : Plan Host α) : Plan Host α :=
  p.implementBy (Step.rekeyed key key')

variable (key key' : String)

theorem rekeyed_bind (p : Plan Host α) (f : α → Plan Host β) :
    rekeyed key key' (p.bind f) = (rekeyed key key' p).bind fun a => rekeyed key key' (f a) :=
  Plan.implementBy_bind _ p f

/-- If a request is sent, another token does not change it. -/
def Step.IsKeyless (s : Host.Step) : Prop :=
  ∀ r ∈ s.sent?, Client.rekeyed key key' r = r

/-- What sends no token stays as it is. -/
theorem rekeyed_of_keyless {p : Plan Host α} (h : Only (Step.IsKeyless key key') p) :
    rekeyed key key' p = p := by
  refine Only.implementBy_eq (h.mono fun s hs => ?_)
  cases s with
  | wire r =>
    cases r with
    | send r timeout =>
      show Plan.ask (I := Host) (.wire (.send (Client.rekeyed key key' r) timeout)) _ = _
      rw [hs r rfl]
      rfl
    | _ => rfl
  | _ => rfl

theorem rekeyed_of_offline {p : Plan Host α} (h : Only (fun s : Host.Step => s.sent? = none) p) :
    rekeyed key key' p = p := by
  refine rekeyed_of_keyless key key' (h.mono fun s hs r hr => ?_)
  rw [hs] at hr
  cases hr

theorem onWire_rekeyed (p : Plan Client.Wire α) :
    rekeyed key key' (onWire p) = onWire (p.implementBy (Client.WireRequest.rekeyed key key')) := by
  unfold rekeyed onWire
  rw [Plan.implementBy_implementBy, Plan.implementBy_implementBy]
  refine congrArg (fun f => p.implementBy f) (funext fun r => ?_)
  exact Plan.implementBy_request _

/-- An operation over a connection with another token asks the same, with that one. -/
theorem onLifecycle_rekeyed {key key' : String} (hkey : Http.isHeaderValue key = true)
    (hkey' : Http.isHeaderValue key' = true) (c : Client.Connection) (store : Registration.Store)
    (act : Lifecycle.Act α) : rekeyed key key' (onLifecycle (c.withKey key) store act) =
      onLifecycle (c.withKey key') store act := by
  have hquery : ∀ q : Client.Query, rekeyed key key' (onWire (q.plan (c.withKey key))) =
      onWire (q.plan (c.withKey key')) := by
    intro q
    rw [onWire_rekeyed, q.plan_rekeyed hkey hkey']
  have hdisk : ∀ {α : Type} (p : Plan Files.Disk α), rekeyed key key' (onDisk p) = onDisk p :=
    fun p => rekeyed_of_offline key key' (Plan.only_implementBy p fun _ => Plan.only_request rfl)
  unfold onLifecycle
  refine (Plan.implementBy_implementBy _ _ _).trans ?_
  refine congrArg (fun f => act.run.implementBy f) (funext fun step => ?_)
  cases step with
  | entryOf a => exact hquery (.entryOf a)
  | register r => exact hquery (.register r)
  | activate a r => exact hquery (.activate a r)
  | deactivate a => exact hquery (.deactivate a)
  | load => exact hdisk _
  | save r => exact hdisk _
  | clear => exact hdisk _
  | now => rfl
  | note e => rfl

/-! ## What is seen of a plan with another token -/

/-- An exchange with another token in the place of one. -/
def rekeyedExchange (key key' : String) : Exchange Host → Exchange Host
  | ⟨.wire (.send r timeout), o⟩ => ⟨.wire (.send (Client.rekeyed key key' r) timeout), o⟩
  | e => e

theorem sent_rekeyed (t : List (Exchange Host)) :
    sent (t.map (rekeyedExchange key key')) = (sent t).map (Client.rekeyed key key') := by
  unfold sent
  rw [List.filterMap_map, List.map_filterMap]
  refine List.filterMap_congr fun e _ => ?_
  obtain ⟨s, reply⟩ := e
  cases s with
  | wire r => cases r <;> rfl
  | _ => rfl

theorem noted_rekeyed (t : List (Exchange Host)) :
    noted (t.map (rekeyedExchange key key')) = noted t := by
  unfold noted
  rw [List.filterMap_map]
  refine List.filterMap_congr fun e _ => ?_
  obtain ⟨s, reply⟩ := e
  cases s with
  | wire r => cases r <;> rfl
  | _ => rfl

theorem printed_rekeyed (t : List (Exchange Host)) :
    printed (t.map (rekeyedExchange key key')) = printed t := by
  unfold printed
  rw [List.filterMap_map]
  refine List.filterMap_congr fun e _ => ?_
  obtain ⟨s, reply⟩ := e
  cases s with
  | wire r => cases r <;> rfl
  | _ => rfl

namespace Parts

variable {δ ν κ : Type}

/-- The network answers a request whatever it carries to prove that it may be made. -/
def IgnoresTokens (m : Parts δ ν κ) : Prop :=
  ∀ (r : Http.Request) (authorization : Option String) (timeout : Client.Span) (n : ν),
    m.network { r with authorization } timeout n = m.network r timeout n

variable {m : Parts δ ν κ}

theorem network_rekeyed (hm : m.IgnoresTokens) (r : Http.Request) (timeout : Client.Span) (n : ν) :
    m.network (Client.rekeyed key key' r) timeout n = m.network r timeout n := by
  unfold Client.rekeyed
  split
  · exact hm r _ timeout n
  · rfl

theorem answer_rekeyed (hm : m.IgnoresTokens) (r : Http.Request) (timeout : Client.Span)
    (w : State δ ν κ) : m.answer (.wire (.send (Client.rekeyed key key' r) timeout)) w =
      m.answer (.wire (.send r timeout)) w := by
  show (_, w.on _) = (_, w.on _)
  rw [network_rekeyed key key' hm]

/-- Where tokens are ignored, a plan with another token runs as before. -/
theorem run_rekeyed (hm : m.IgnoresTokens) (p : Plan Host α) (w : State δ ν κ) :
    (rekeyed key key' p).run m.answer w = p.run m.answer w := by
  unfold rekeyed
  rw [Plan.run_implementBy]
  refine congrArg (fun answer => p.run answer w) (funext fun s => funext fun w => ?_)
  cases s with
  | wire r =>
    cases r with
    | send r timeout => exact answer_rekeyed key key' hm r timeout w
    | _ => rfl
  | _ => rfl

/-- Where tokens are ignored, a run with another token is the same but for the token. -/
theorem transcript_rekeyed (hm : m.IgnoresTokens) (p : Plan Host α) (w : State δ ν κ) :
    (rekeyed key key' p).transcript m.answer w =
      (p.transcript m.answer w).map (rekeyedExchange key key') := by
  induction p generalizing w with
  | done a => rfl
  | ask s next ih =>
    cases s with
    | wire r =>
      cases r with
      | send r timeout =>
        have hanswer := answer_rekeyed key key' hm r timeout w
        show _ :: (rekeyed key key' (next (m.answer (.wire (.send (Client.rekeyed key key' r)
          timeout)) w).1)).transcript m.answer _ = _
        rw [hanswer, ih]
        rfl
      | wait span => exact congrArg (_ :: ·) (ih _ _)
      | note e => exact congrArg (_ :: ·) (ih _ _)
    | disk s => exact congrArg (_ :: ·) (ih _ _)
    | now => exact congrArg (_ :: ·) (ih _ _)
    | note e => exact congrArg (_ :: ·) (ih _ _)
    | print text => exact congrArg (_ :: ·) (ih _ _)

end Parts

end Host

end Enrollment
