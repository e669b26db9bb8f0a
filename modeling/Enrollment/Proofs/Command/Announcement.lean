import Enrollment.Proofs.Client.Resources
import Enrollment.Proofs.Client.Speaking
import Enrollment.Proofs.Command.Influence
import Enrollment.Proofs.Command.Resolution
import Enrollment.Proofs.Lifecycle.Sending
import Enrollment.Proofs.Settings.Announcing
/-!
# What is announced

With settings that pass, and a place for the record, registering a node sends what was configured: the
entry of the configured node is asked for, and if that is told to be inactive, a registration is sent that
tells the address, the payments, the version and the containers of the settings. The address that is asked
for stands at the end of the path, unless the text of the coordinator's URL has a question mark or a
number sign in it: then all that is put behind it is no part of the path.

Results:
 1. `Command.sent_register`: what a session sends to register its node.
 2. `registering_of_sends`: what is in it.
 3. `Session.register_announces`: both, of settings that pass.
-/

namespace Enrollment

open Client (Connection Query)
open Host (sent)

variable {α β σ : Type}

/-! ## What is sent -/

/-- What is behind an attempt that sends nothing more leaves what is sent to the attempt. -/
theorem Task.sent_attempt_bind {p : Plan Host (Except Failure α)} {f : α → Task β}
    (hf : ∀ a, (f a).run.Only fun q : Host.Step => q.sent? = none)
    (answer : (q : Host.Request) → σ → Host.Answer q × σ) (w : σ) :
    sent ((attempt p >>= f).run.transcript answer w) = sent (p.transcript answer w) := by
  have hsilent : ∀ (o : Except Failure α) (w : σ),
      sent ((ofExcept (o.mapError Failure.toTrouble) >>= f).run.transcript answer w) = [] :=
    fun o w => Host.sent_of_only (only_bind (only_ofExcept _) hf)
  rw [run_attempt_bind, Plan.transcript_bind, Host.sent_append, hsilent, List.append_nil]

namespace Command

/-- To register its node, a session asks for the manifest if that is wanted, and then sends what the
operation sends. -/
theorem sent_register {s : Session} {c : Connection} (hc : s.connection = .ok c) {l : Lifecycle}
    (hl : s.lifecycle c = .ok l) (answer : (q : Host.Request) → σ → Host.Answer q × σ) (w : σ) :
    sent ((run s .register).run.transcript answer w) =
      s.manifest?.toList ++ sent ((outcome c l l.register).transcript answer
        ((s.checkRelease c).run answer w).2) := by
  have hprint : ∀ o, (Task.lift (s.present (Lifecycle.RegisterOutcome.encode o)
      (registerLines s o))).run.Only fun q : Host.Step => q.sent? = none := by
    intro o
    rw [Session.present, Output.present_eq]
    exact Task.only_lift (Plan.only_request rfl)
  rw [run_of_lifecycle hc hl rfl, Plan.transcript_bind, Host.sent_append, s.sent_checkRelease]
  exact congrArg _ (Task.sent_attempt_bind hprint answer _)

end Command

/-! ## What is in it -/

/-- What goes to the coordinator at a URL when a node is registered: questions for the entry of the node,
and requests to register it. -/
structure Registering (base : String) (u : Url) (request : Registration.Request)
    (told : Except Failure Node.Entry) (asks posts : List Http.Request) : Prop where
  /-- The address stands at the end of the path of a question, unless it is behind a mark. -/
  asked : ∀ r ∈ asks, r.method = .get ∧
    if '?' ∈ base.toList ∨ '#' ∈ base.toList then r.url.path = u.path
    else ∃ front, r.url.path =
      .segments (front ++ (Query.nodesNames ++ [request.address.text.toList]))
  asked_of_told : ∀ entry, told = .ok entry → asks ≠ []
  posted : ∀ r ∈ posts, r.method = .post ∧
    ∃ body, r.body = some body ∧ Json.decode Registration.Request.codec body = .ok request
  posted_iff : posts ≠ [] ↔ ∃ entry, told = .ok entry ∧ entry.status = .inactive

/-- What is sent for the questions of a registration is questions for the entry, and requests to
register the node. -/
theorem registering_of_sends {base : String} {apiKey : Option String} {timeout : Client.Span}
    {retry : Client.Retry} {c : Connection} (hc : Client.connect base apiKey timeout retry = .ok c)
    {u : Url} (hu : Url.parse base = .ok u) {l : Lifecycle}
    {t : List (Exchange Client.Wire)} {told : Except Failure Node.Entry}
    (htold : Plan.Course (c.entryOf l.address) t told) {requests : List Http.Request}
    (h : Lifecycle.SendsAll c (.entryOf l.address :: l.asksBehind told) requests) :
    ∃ asks posts, requests = asks ++ posts ∧ Registering base u l.registration told asks posts := by
  obtain ⟨parts, hparts, rfl⟩ := h
  obtain ⟨asks, rest, hasks, hrest, rfl⟩ := List.forall₂_cons_left_iff.1 hparts
  -- An entry is told only if it can be asked for, and then a registration can be asked for as well.
  have hmade : ∀ entry, told = .ok entry → ∃ r, (Query.entryOf l.address).made c = .ok r := by
    rintro entry rfl
    exact Query.made_of_told (q := .entryOf l.address) htold
  refine ⟨asks, rest.flatten, rfl, ?_, ?_, ?_, ?_⟩
  · intro r hr
    have hr := hasks.made_of_mem r hr
    exact ⟨(Client.makeRequest_ok hr).1, Query.path_of_made hc hu hr⟩
  · intro entry hentry
    obtain ⟨r, hr⟩ := hmade entry hentry
    exact hasks.ne_nil hr
  · intro r hr
    rcases Lifecycle.asksBehind_sends ⟨rest, hrest, rfl⟩ with ⟨-, hposts⟩ | ⟨-, hnone⟩
    · obtain ⟨hmethod, hbody, -⟩ := Client.makeRequest_ok (hposts.made_of_mem r hr)
      refine ⟨hmethod, ?_⟩
      rw [hbody]
      exact (Query.register l.registration).carries_document
    · rw [hnone] at hr
      cases hr
  · rcases Lifecycle.asksBehind_sends ⟨rest, hrest, rfl⟩ with
      ⟨⟨entry, hentry, hstatus⟩, hposts⟩ | ⟨hnot, hnone⟩
    · obtain ⟨r, hr⟩ := hmade entry hentry
      -- The resource of all nodes is no longer than that of one.
      have hlength : (Query.register l.registration).path.toList.length ≤
          (Query.entryOf l.address).path.toList.length := by
        rw [show (Query.entryOf l.address).path = Client.Connection.nodePath l.address from rfl,
          Query.length_nodePath]
        exact (show Client.Connection.nodesPath.toList.length ≤ 56 by decide)
      obtain ⟨r', hr'⟩ := Query.made_of_made hc hr hlength
      exact iff_of_true (hposts.ne_nil hr') ⟨entry, hentry, hstatus⟩
    · exact iff_of_false (fun hne => hne hnone) hnot

/-! ## Settings that pass -/

/-- To register its node, a session with settings that pass and a place for the record looks for releases
if that is wanted, asks for the entry of the node, and if that is told to be inactive asks to register it
as the settings announce. -/
theorem Session.register_announces {s : Session} (h : s.settings.validate = .ok ())
    (hplace : s.settings.PlacesRecord s.environment) :
    ∃ c u l, s.settings.coordinator.connect = .ok c ∧
      Url.parse s.settings.coordinator.url = .ok u ∧
      s.settings.lifecycle s.environment c.baseUrl = .ok l ∧
      s.settings.Announces l.registration ∧
      ∀ (answer : (q : Host.Request) → σ → Host.Answer q × σ) (w : σ),
        ∃ asks posts,
          sent ((Command.run s .register).run.transcript answer w) =
            s.manifest?.toList ++ asks ++ posts ∧
          Registering s.settings.coordinator.url u l.registration
            ((Host.onWire (c.entryOf l.address)).run answer ((s.checkRelease c).run answer w).2).1
            asks posts := by
  obtain ⟨c, hconnect, hc⟩ := connection_of_valid h
  obtain ⟨-, u, hu, -⟩ := Client.connect_ok hconnect
  obtain ⟨l, hlife⟩ : ∃ l, s.settings.lifecycle s.environment c.baseUrl = .ok l :=
    (Settings.lifecycle_isOk_iff h).2 hplace
  have hl : s.lifecycle c = .ok l := by
    unfold lifecycle
    rw [hlife]
    rfl
  refine ⟨c, u, l, hconnect, hu, hlife, Settings.announces_of_lifecycle h hlife, fun answer w => ?_⟩
  have htold := Plan.course_transcript (fun q w => (Plan.request (I := Host) (.wire q)).run answer w)
    (c.entryOf l.address) ((s.checkRelease c).run answer w).2
  rw [← Plan.run_implementBy] at htold
  have hsends := Lifecycle.sent_onLifecycle c ⟨l.recordPath⟩ answer l.register
    ((s.checkRelease c).run answer w).2
  rw [Lifecycle.queries_register] at hsends
  obtain ⟨asks, posts, heq, hregistering⟩ := registering_of_sends hconnect hu htold hsends
  refine ⟨asks, posts, ?_, hregistering⟩
  rw [Command.sent_register hc hl, List.append_assoc]
  exact congrArg _ heq

/-- A node with a container, whose coordinator's URL ends in a number sign and a word. -/
def numbered : Session where
  settings := {
    coordinator := { url := "http://[::1]#main" }
    node := {
      address := " 0xAAAAAAAAAAAAAAAAAAAAAAAAAAAAAAAAAAAAAAAA"
      recordPath := some "reg.json" }
    containers := [⟨"hello", "hello-world", false, ""⟩]
    releaseCheck := { enabled := false } }
  settingsPath := "config.json"
  environment := []

def numberedLife : Lifecycle where
  address := ⟨List.replicate 40 (Fin.mk 10 (by decide)), rfl⟩
  containers := ["hello"]
  coordinatorUrl := "http://[::1]#main"
  recordPath := "reg.json"

/-- A machine whose coordinator does not know the node. -/
def Host.World.unacquainted : Host.World :=
  { Host.World.empty with script := [.answer ⟨404, [], some []⟩] }

/-- Registering such a node sends what the settings announce, but asks for the entry of no node. -/
theorem numbered_registers :
    numbered.settings.validate = .ok () ∧
      numbered.settings.PlacesRecord numbered.environment ∧
      ∃ asks posts,
        sent ((Command.run numbered .register).run.transcript Host.World.answer .unacquainted) =
          asks ++ posts ∧
        asks ≠ [] ∧ (∀ r ∈ asks, r.url.path = .segments [[]]) ∧
        posts ≠ [] ∧ ∀ r ∈ posts, ∃ body, r.body = some body ∧
          Json.decode Registration.Request.codec body = .ok numberedLife.registration := by
  have hvalid : numbered.settings.validate = .ok () := by rfl
  have hplace : numbered.settings.PlacesRecord numbered.environment := by
    intro path hpath name hname
    cases hpath
    have hneeded : Settings.neededIn "reg.json".toList = [] := by decide +kernel
    rw [hneeded] at hname
    cases hname
  have hmark : '#' ∈ numbered.settings.coordinator.url.toList := by decide
  obtain ⟨c, u, l, hconnect, hu, hlife, -, hregisters⟩ := Session.register_announces hvalid hplace
  obtain rfl : ⟨"http://[::1]#main", none, .ofSeconds 30, {}⟩ = c := Except.ok.inj hconnect
  obtain rfl : numberedLife = l := by
    have hsome : (numbered.settings.lifecycle [] "http://[::1]#main").toOption =
        some numberedLife := by decide +kernel
    have hlife : numbered.settings.lifecycle [] "http://[::1]#main" = .ok l := hlife
    rw [hlife] at hsome
    exact (Option.some.inj hsome).symm
  obtain ⟨asks, posts, hsent, hregistering⟩ := hregisters Host.World.answer .unacquainted
  have hbase : u.path = .segments [[]] := by
    have hparsed : Url.parse "http://[::1]#main" = .ok _ := hu
    cases hparsed
    rfl
  have htold : ((Host.onWire (Client.Connection.entryOf ⟨"http://[::1]#main", none, .ofSeconds 30, {}⟩
      numberedLife.address)).run Host.World.answer Host.World.unacquainted).1 =
        .ok (.unknown numberedLife.address) := by rfl
  refine ⟨hvalid, hplace, asks, posts, hsent, hregistering.asked_of_told _ htold, ?_,
    hregistering.posted_iff.2 ⟨_, htold, rfl⟩, fun r hr => (hregistering.posted r hr).2⟩
  intro r hr
  have hpath := (hregistering.asked r hr).2
  rw [if_pos (.inr hmark)] at hpath
  rw [hpath, hbase]

end Enrollment
