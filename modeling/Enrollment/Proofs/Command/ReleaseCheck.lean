import Enrollment.Proofs.Client.Sending
import Enrollment.Proofs.Command.Preparation
/-!
# The look at releases

Before a node is registered or activated, the manifest of releases is asked for, if that is wanted and
can be asked for. Whatever comes of it is noted and nothing else.

Results:
 1. `Release.sendsOnce_warnIfOutdated`: the look at releases is one request among notes, or notes alone.
 2. `Session.sent_checkRelease`: what is sent for it on a host.
-/

namespace Enrollment

open Client (Connection Wire)
open Host (sent)
open Plan (Only)

variable {α β σ : Type}

/-! ## The look at releases -/

namespace Release

open Client (SendsOnce)

def manifestRequest (url : String) : Except Failure Http.Request :=
  Client.makeRequest .get url none none

/-- A comparison with the latest release asks for the manifest once, without the token. -/
theorem sendsOnce_check (c : Connection) (url : String) :
    SendsOnce c.timeout (manifestRequest url) (check c url) := by
  have htext : SendsOnce c.timeout (manifestRequest url) (c.getText url) :=
    Client.sendsOnce_sendOnce.behind_note Client.only_note
  have hlatest : SendsOnce c.timeout (manifestRequest url) (latest c url) := by
    refine htext.bind fun read => ?_
    cases read with
    | error f => exact Plan.only_done
    | ok manifest =>
      dsimp only
      split
      · exact Plan.only_done
      · exact Plan.only_done
  refine hlatest.bind fun found => ?_
  cases found with
  | error f => exact Plan.only_done
  | ok version => exact Only.bind Client.only_note fun _ => Plan.only_done

/-- So does the look at releases, whatever comes of it. -/
theorem sendsOnce_warnIfOutdated (c : Connection) (url : String) :
    SendsOnce c.timeout (manifestRequest url) (warnIfOutdated c url) := by
  refine (sendsOnce_check c url).bind fun standing => ?_
  cases standing with
  | error f => exact Client.only_note
  | ok standing =>
    cases standing with
    | upToDate => exact Plan.only_done
    | outdated version => exact Client.only_note

end Release

namespace Session

open Host.Step (IsClientNote)

def looksForRelease (s : Session) : Bool :=
  !s.skipsReleaseCheck && s.settings.releaseCheck.enabled

/-- The request for the manifest, if that is wanted and can be asked for. -/
def manifest? (s : Session) : Option Http.Request :=
  if s.looksForRelease then (Release.manifestRequest s.settings.releaseCheck.url).toOption else none

theorem made_of_manifest? {s : Session} {r : Http.Request} (h : s.manifest? = some r) :
    Release.manifestRequest s.settings.releaseCheck.url = .ok r := by
  unfold manifest? at h
  split at h
  · cases hmade : Release.manifestRequest s.settings.releaseCheck.url with
    | error f =>
      rw [hmade] at h
      cases h
    | ok made =>
      rw [hmade] at h
      cases h
      rfl
  · cases h

/-- On a host, the look at releases is one request among notes, or notes alone. -/
theorem checkRelease_cases (s : Session) (c : Connection) :
    (s.manifest? = none ∧
      Only IsClientNote (s.checkRelease c)) ∨
    ∃ r, s.manifest? = some r ∧ ∃ (before : Plan Host Unit) (behind : Http.Outcome → Plan Host Unit),
      s.checkRelease c = before.bind (fun _ =>
        (Plan.request (I := Host) (.wire (.send r c.timeout))).bind behind) ∧
      Only IsClientNote before ∧
      ∀ o, Only IsClientNote (behind o) := by
  have hnote : ∀ {α : Type} {p : Plan Wire α}, Only Client.WireRequest.IsNote p →
      Only IsClientNote (Host.onWire p) := by
    intro α p hp
    refine Host.only_onWire (hp.mono fun r hr => ?_)
    cases r with
    | note e => trivial
    | _ => cases hr
  unfold checkRelease manifest? looksForRelease
  cases hskips : s.skipsReleaseCheck with
  | true => exact .inl ⟨rfl, Plan.only_done⟩
  | false =>
    cases henabled : s.settings.releaseCheck.enabled with
    | false => exact .inl ⟨rfl, Plan.only_done⟩
    | true =>
      have honce := Release.sendsOnce_warnIfOutdated c s.settings.releaseCheck.url
      cases hmade : Release.manifestRequest s.settings.releaseCheck.url with
      | error f =>
        rw [hmade] at honce
        exact .inl ⟨rfl, hnote honce⟩
      | ok r =>
        rw [hmade] at honce
        obtain ⟨before, behind, heq, hbefore, hbehind⟩ := honce
        refine .inr ⟨r, rfl, Host.onWire before, fun o => Host.onWire (behind o), ?_,
          hnote hbefore, fun o => hnote (hbehind o)⟩
        show Host.onWire _ = _
        rw [heq]
        exact Plan.implementBy_bind _ _ _

/-- For the look at releases, at most the request for the manifest is sent. -/
theorem sent_checkRelease (s : Session) (c : Connection)
    (answer : (q : Host.Request) → σ → Host.Answer q × σ) (w : σ) :
    sent ((s.checkRelease c).transcript answer w) = s.manifest?.toList := by
  have hsilent : ∀ {α : Type} {p : Plan Host α} (w : σ),
      Only IsClientNote p → sent (p.transcript answer w) = [] := by
    intro α p w hp
    refine Host.sent_of_only (hp.mono fun q hq => ?_)
    obtain ⟨e, rfl⟩ := hq.exists
    rfl
  rcases s.checkRelease_cases c with ⟨hnone, honly⟩ | ⟨r, hsome, before, behind, heq, hbefore, hbehind⟩
  · rw [hnone, hsilent w honly]
    rfl
  · rw [hsome, heq, Plan.transcript_bind, Plan.transcript_bind, Host.sent_append, Host.sent_append,
      hsilent w hbefore, hsilent _ (hbehind _)]
    rfl

end Session

end Enrollment
