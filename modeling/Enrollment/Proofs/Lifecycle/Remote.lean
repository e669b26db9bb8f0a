import Enrollment.Host.Basic
import Enrollment.Proofs.Client.Speaking
import Enrollment.Proofs.Lifecycle.GivingUp
import Mathlib.Data.List.Forall2
/-!
# Operations over a network

The operations of a lifecycle whose coordinator is behind a server, asked over a connection. A
coordinator speaks through a server if the answer to every request that puts a query stands for what
the coordinator says to that query, and sends nobody on. A lifecycle then notices the network by nothing
but the words of refusals: calls ask the same as with the coordinator at hand, leave the same behind, and
end alike.

Results:
 1. `speaks_served`: every coordinator speaks through some server.
 2. `Remote.run_query`: a query sends its request, and ends with what is heard of the coordinator.
 3. `Remote.question_shown`: so does every question of an operation, and `Remote.calls_shown` all
    questions of any number of calls.
 4. `Site.calls_heard`: what is heard of a coordinator differs from what it says in refusals alone,
    which matters to nothing but the outcome.
 5. `network_is_transparent`: all of it for connections to a plain origin, and `network_is_noticed`: what
    is different where a condition does not hold.
-/

namespace Enrollment.Lifecycle

open Client (Connection Query Represents Wire WireRequest)
open Files (Unreliable)
open Registration (Store)

variable {κ : Type}

/-! ## Coordinators behind servers -/

/-- What a server answers to a request, and what becomes of it. -/
abbrev Server (κ : Type) :=
  Http.Request → κ → Http.Response × κ

/-- What a coordinator says to a query, and what becomes of it. -/
def Coordinator.answer (c : Coordinator κ) : (q : Query) → κ → Except Failure q.Answer × κ
  | .entryOf a => c.entryOf a
  | .register r => c.register r
  | .activate a r => c.activate a r
  | .deactivate a => c.deactivate a

/-- Why a query is refused over a connection: what the answer means, unless no request can be made. -/
def refusalOf (conn : Connection) (server : Server κ) (q : Query) (k : κ) : Failure :=
  match q.made conn with
  | .ok r => Client.failureOf (server r k).1.arriving
  | .error f => f

/-- What is heard of a coordinator over a connection: what it says, but for the words of refusals. -/
def Coordinator.heard (c : Coordinator κ) (conn : Connection) (server : Server κ) :
    Coordinator κ where
  entryOf a k :=
    ((c.entryOf a k).1.mapError fun _ => refusalOf conn server (.entryOf a) k, (c.entryOf a k).2)
  register r k :=
    ((c.register r k).1.mapError fun _ => refusalOf conn server (.register r) k, (c.register r k).2)
  activate a r k :=
    ((c.activate a r k).1.mapError fun _ => refusalOf conn server (.activate a r) k,
      (c.activate a r k).2)
  deactivate a k :=
    ((c.deactivate a k).1.mapError fun _ => refusalOf conn server (.deactivate a) k,
      (c.deactivate a k).2)

theorem Coordinator.answer_heard (c : Coordinator κ) (conn : Connection) (server : Server κ)
    (q : Query) (k : κ) :
    (c.heard conn server).answer q k =
      ((c.answer q k).1.mapError fun _ => refusalOf conn server q k, (c.answer q k).2) := by
  cases q <;> rfl

/-- A coordinator speaks through a server at a URL: what arrives as the answer to a request that puts a
query stands for what the coordinator says, and sends nobody on; and the same becomes of both. -/
def Speaks (base : Url) (c : Coordinator κ) (server : Server κ) : Prop :=
  ∀ (q : Query) (r : Http.Request) (k : κ), q.Asks base r →
    Represents q (c.answer q k).1 (server r k).1.arriving ∧
      (server r k).1.arriving.onward? r.url = none ∧ (server r k).2 = (c.answer q k).2

open Classical in
/-- The server that says what a coordinator says to the query of a request. -/
noncomputable def Coordinator.served (c : Coordinator κ) (base : Url) : Server κ := fun r k =>
  if h : ∃ q : Query, q.Asks base r then
    (h.choose.said (c.answer h.choose k).1, (c.answer h.choose k).2)
  else (⟨500, [], some []⟩, k)

/-- Every coordinator speaks through some server, as no request puts two queries. -/
theorem speaks_served (base : Url) (c : Coordinator κ) : Speaks base c (c.served base) := by
  intro q r k hasks
  have hsome : ∃ q : Query, q.Asks base r := ⟨q, hasks⟩
  have hq : hsome.choose = q := Query.asks_unique hsome.choose_spec hasks
  obtain ⟨harriving, hfinal⟩ := Client.said_final q (c.answer q k).1 r.url
  rw [Coordinator.served, dif_pos hsome, hq, harriving]
  exact ⟨Client.represents_said q _, hfinal, rfl⟩

/-- Over a connection every query is put to the coordinator at a URL, once. -/
structure Reaches (conn : Connection) (base : Url) : Prop where
  once : conn.retry.maxRetries = 0
  asks : ∀ q : Query, ∃ r, q.made conn = .ok r ∧ q.Asks base r

/-- The query that a question puts, if it is one for the coordinator. -/
def query? : Step → Option Query
  | .entryOf a => some (.entryOf a)
  | .register r => some (.register r)
  | .activate a r => some (.activate a r)
  | .deactivate a => some (.deactivate a)
  | _ => none

def queries (t : Transcript) : List Query :=
  (asked t).filterMap query?

theorem queries_cons (e : Exchange Surroundings) (t : Transcript) :
    queries (e :: t) = (query? e.request).toList ++ queries t := by
  show List.filterMap query? (e.request :: asked t) = _
  rw [List.filterMap_cons]
  cases query? e.request with
  | none => rfl
  | some q => rfl

theorem queries_append (t u : Transcript) : queries (t ++ u) = queries t ++ queries u := by
  rw [queries, asked_append, List.filterMap_append]
  rfl

/-! ## Sites with a network -/

/-- Where a lifecycle is at work over a network: a site whose coordinator is behind a server, and the
requests that were sent, in order. -/
structure Remote (κ : Type) where
  site : Site κ
  sent : List Http.Request

namespace Remote

variable (server : Server κ)

def after (m : Remote κ) (r : Http.Request) : Remote κ where
  site := { m.site with coordinator := (server r m.site.coordinator).2 }
  sent := m.sent ++ [r]

def exchange (r : Http.Request) (m : Remote κ) : Http.Outcome × Remote κ :=
  (.answered (server r m.site.coordinator).1.arriving, m.after server r)

/-- Answers a question of a client, who goes where the server sends it on to. -/
def answerWire : (r : WireRequest) → Remote κ → r.Answer × Remote κ
  | .send r _, m =>
    let way := Http.journey (exchange server) r m
    (way.outcome, way.network)
  | .wait _, m => ((), m)
  | .note _, m => ((), m)

def answer : (s : Host.Step) → Remote κ → s.Answer × Remote κ
  | .disk s, m =>
    ((Unreliable.answer s m.site.disk).1,
      { m with site := { m.site with disk := (Unreliable.answer s m.site.disk).2 } })
  | .wire r, m => m.answerWire server r
  | .now, m => (m.site.clock, m)
  | .note _, m => ((), m)
  | .print _, m => ((), m)

variable (conn : Connection) (store : Store)

/-- Answers a question of an operation, over a connection and a store. -/
def question (q : Step) (m : Remote κ) : q.Answer × Remote κ :=
  (Host.lifecycleStep conn store q).run (answer server) m

variable (l : Lifecycle)

def showing (m : Remote κ) (instant : Instant) : Remote κ :=
  { m with site := m.site.showing instant }

def perform (m : Remote κ) (call : Call) : Except Failure Outcome × Remote κ :=
  (Host.onLifecycle conn l.store (l.perform call.operation)).run (answer server)
    (m.showing call.instant)

/-- What is asked and answered in a call. -/
def transcript (m : Remote κ) (call : Call) : Transcript :=
  (l.perform call.operation).run.transcript (question server conn l.store) (m.showing call.instant)

def performAll (m : Remote κ) : List Call → Remote κ
  | [] => m
  | call :: calls => (m.perform server conn l call).2.performAll calls

/-- What is asked and answered in some calls. -/
def transcripts (m : Remote κ) : List Call → Transcript
  | [] => []
  | call :: calls =>
    m.transcript server conn l call ++ (m.perform server conn l call).2.transcripts calls

def outcomes (m : Remote κ) : List Call → List (Except Failure Outcome)
  | [] => []
  | call :: calls =>
    (m.perform server conn l call).1 :: (m.perform server conn l call).2.outcomes calls

variable {server conn store l}

theorem perform_eq (m : Remote κ) (call : Call) :
    m.perform server conn l call =
      (l.perform call.operation).run.run (question server conn l.store) (m.showing call.instant) :=
  Plan.run_implementBy _ _ _ _

/-! ## One question -/

theorem run_onWire {α : Type} (p : Plan Wire α) (m : Remote κ) :
    (Host.onWire p).run (answer server) m = p.run (fun r m => m.answerWire server r) m :=
  Plan.run_implementBy _ _ _ _

/-- What is done with the disk leaves the network alone. -/
theorem run_disk {α : Type} (p : Plan Files.Disk α) (m : Remote κ) :
    (Host.onDisk p).run (answer server) m =
      ((m.site.onDisk p).1, { m with site := (m.site.onDisk p).2 }) := by
  rw [Host.run_onDisk]
  induction p generalizing m with
  | done a => rfl
  | ask s next ih => exact ih _ _

/-- Where nothing is sent, nothing changes. -/
theorem along_unsent {t : List (Exchange Wire)} {m m' : Remote κ}
    (h : Plan.Along (fun r m => m.answerWire server r) t m m') (hsent : Client.sent t = []) :
    m' = m := by
  induction t generalizing m with
  | nil => exact h
  | cons e t ih =>
    obtain ⟨q, reply⟩ := e
    obtain ⟨-, hrest⟩ := h
    cases q with
    | send r timeout => cases hsent
    | wait s => exact ih hrest hsent
    | note e => exact ih hrest hsent

/-- Where one request is sent whose answer sends nobody on, the server deals with it. -/
theorem along_sent {t : List (Exchange Wire)} {m m' : Remote κ}
    (h : Plan.Along (fun r m => m.answerWire server r) t m m') {r : Http.Request}
    (hfinal : (server r m.site.coordinator).1.arriving.onward? r.url = none) {o : Http.Outcome}
    (hsent : Client.sent t = [r]) (houtcomes : Client.outcomes t = [o]) :
    o = .answered (server r m.site.coordinator).1.arriving ∧ m' = m.after server r := by
  induction t generalizing m with
  | nil => cases hsent
  | cons e t ih =>
    obtain ⟨q, reply⟩ := e
    obtain ⟨hreply, hrest⟩ := h
    cases q with
    | send r' timeout =>
      obtain ⟨rfl, hnone⟩ := List.cons_eq_cons.1 hsent
      obtain ⟨rfl, -⟩ := List.cons_eq_cons.1 houtcomes
      have hway : Http.journey (exchange server) r' m =
          ⟨[r'], .answered (server r' m.site.coordinator).1.arriving, m.after server r'⟩ :=
        Http.follow_of_final rfl hfinal
      have hreply : (Http.journey (exchange server) r' m).outcome = reply := hreply
      have hrest : Plan.Along (fun r m => m.answerWire server r) t
          (Http.journey (exchange server) r' m).network m' := hrest
      rw [hway] at hreply hrest
      exact ⟨hreply.symm, along_unsent hrest hnone⟩
    | wait s => exact ih hrest hfinal hsent houtcomes
    | note e => exact ih hrest hfinal hsent houtcomes

variable {base : Url} {c : Coordinator κ}

/-- A query sends one request, which puts it, and ends with what is heard of the coordinator. -/
theorem run_query (hreaches : Reaches conn base) (hspeaks : Speaks base c server) (q : Query)
    (m : Remote κ) :
    ∃ r, q.Asks base r ∧ (Host.onWire (q.plan conn)).run (answer server) m =
      (((c.heard conn server).answer q m.site.coordinator).1,
        ⟨{ m.site with coordinator := ((c.heard conn server).answer q m.site.coordinator).2 },
          m.sent ++ [r]⟩) := by
  obtain ⟨r, hmade, hasks⟩ := hreaches.asks q
  obtain ⟨hrepresents, hfinal, hstate⟩ := hspeaks q r m.site.coordinator hasks
  refine ⟨r, hasks, ?_⟩
  have hcourse := Plan.course_transcript (fun r m => answerWire server r m) (q.plan conn) m
  have halong := Plan.along_transcript (fun r m => answerWire server r m) (q.plan conn) m
  obtain ⟨o, hsent, houtcomes, hvalue⟩ := Query.course_once hreaches.once hmade hcourse
  obtain ⟨rfl, hafter⟩ := along_sent halong hfinal hsent houtcomes
  rw [Query.settle_of_represents hrepresents] at hvalue
  have hrefusal : refusalOf conn server q m.site.coordinator =
      Client.failureOf (server r m.site.coordinator).1.arriving := by
    rw [refusalOf, hmade]
  rw [run_onWire, Coordinator.answer_heard, hrefusal, ← hstate]
  exact Prod.ext hvalue hafter

/-- Every question is answered with what is heard of the coordinator, and sends what puts its query. -/
theorem question_shown (store : Store) (hreaches : Reaches conn base)
    (hspeaks : Speaks base c server) (q : Step) (m : Remote κ) :
    Site.answer (c.heard conn server) store q m.site =
        ((question server conn store q m).1, (question server conn store q m).2.site) ∧
      ∃ requests, (question server conn store q m).2.sent = m.sent ++ requests ∧
        List.Forall₂ (Query.Asks base) (query? q).toList requests := by
  cases q with
  | entryOf a =>
    obtain ⟨r, hasks, hrun⟩ := run_query hreaches hspeaks (.entryOf a) m
    have hrun : question server conn store (.entryOf a) m = _ := hrun
    rw [hrun]
    exact ⟨rfl, [r], rfl, .cons hasks .nil⟩
  | register request =>
    obtain ⟨r, hasks, hrun⟩ := run_query hreaches hspeaks (.register request) m
    have hrun : question server conn store (.register request) m = _ := hrun
    rw [hrun]
    exact ⟨rfl, [r], rfl, .cons hasks .nil⟩
  | activate a request =>
    obtain ⟨r, hasks, hrun⟩ := run_query hreaches hspeaks (.activate a request) m
    have hrun : question server conn store (.activate a request) m = _ := hrun
    rw [hrun]
    exact ⟨rfl, [r], rfl, .cons hasks .nil⟩
  | deactivate a =>
    obtain ⟨r, hasks, hrun⟩ := run_query hreaches hspeaks (.deactivate a) m
    have hrun : question server conn store (.deactivate a) m = _ := hrun
    rw [hrun]
    exact ⟨rfl, [r], rfl, .cons hasks .nil⟩
  | load =>
    have hrun : question server conn store .load m = _ := run_disk store.load m
    rw [hrun]
    exact ⟨rfl, [], (List.append_nil _).symm, .nil⟩
  | save record =>
    have hrun : question server conn store (.save record) m = _ := run_disk (store.save record) m
    rw [hrun]
    exact ⟨rfl, [], (List.append_nil _).symm, .nil⟩
  | clear =>
    have hrun : question server conn store .clear m = _ := run_disk store.clear m
    rw [hrun]
    exact ⟨rfl, [], (List.append_nil _).symm, .nil⟩
  | now => exact ⟨rfl, [], (List.append_nil _).symm, .nil⟩
  | note e => exact ⟨rfl, [], (List.append_nil _).symm, .nil⟩

/-! ## Calls -/

/-- Along a transcript of an operation, the requests that are sent put its queries, in order. -/
theorem along_asks (hreaches : Reaches conn base) (hspeaks : Speaks base c server) {t : Transcript}
    {m m' : Remote κ} (h : Plan.Along (question server conn store) t m m') :
    ∃ requests, m'.sent = m.sent ++ requests ∧
      List.Forall₂ (Query.Asks base) (queries t) requests := by
  induction t generalizing m with
  | nil =>
    obtain rfl : m' = m := h
    exact ⟨[], (List.append_nil _).symm, .nil⟩
  | cons e t ih =>
    obtain ⟨-, first, hfirst, hasks⟩ := question_shown store hreaches hspeaks e.request m
    obtain ⟨rest, hrest, hasks'⟩ := ih h.2
    refine ⟨first ++ rest, ?_, ?_⟩
    · rw [hrest, hfirst, List.append_assoc]
    · rw [queries_cons]
      exact List.rel_append hasks hasks'

/-- A call ends with what is heard of the coordinator. -/
theorem call_shown (hreaches : Reaches conn base) (hspeaks : Speaks base c server) (l : Lifecycle)
    (m : Remote κ) (call : Call) :
    m.site.perform l (c.heard conn server) call =
        ((m.perform server conn l call).1, (m.perform server conn l call).2.site) ∧
      m.site.transcript l (c.heard conn server) call = m.transcript server conn l call ∧
      ∃ requests, (m.perform server conn l call).2.sent = m.sent ++ requests ∧
        List.Forall₂ (Query.Asks base) (queries (m.transcript server conn l call)) requests := by
  have hshows : ∀ (q : Surroundings.Request) (m : Remote κ),
      Site.answer (c.heard conn server) l.store q m.site =
        ((question server conn l.store q m).1, (question server conn l.store q m).2.site) :=
    fun q m => (question_shown l.store hreaches hspeaks q m).1
  have halong := Plan.along_transcript (question server conn l.store)
    (l.perform call.operation).run (m.showing call.instant)
  refine ⟨?_, ?_, ?_⟩
  · rw [perform_eq]
    exact Plan.run_shown hshows _ (m.showing call.instant)
  · exact Plan.transcript_shown hshows _ (m.showing call.instant)
  · obtain ⟨requests, hsent, hasks⟩ := along_asks hreaches hspeaks halong
    rw [perform_eq]
    exact ⟨requests, hsent, hasks⟩

/-- So do all calls. -/
theorem calls_shown (hreaches : Reaches conn base) (hspeaks : Speaks base c server) (l : Lifecycle)
    (m : Remote κ) (calls : List Call) :
    m.outcomes server conn l calls = m.site.outcomes l (c.heard conn server) calls ∧
      (m.performAll server conn l calls).site = m.site.performAll l (c.heard conn server) calls ∧
      m.transcripts server conn l calls = m.site.transcripts l (c.heard conn server) calls ∧
      ∃ requests, (m.performAll server conn l calls).sent = m.sent ++ requests ∧
        List.Forall₂ (Query.Asks base) (queries (m.transcripts server conn l calls)) requests := by
  induction calls generalizing m with
  | nil => exact ⟨rfl, rfl, rfl, [], (List.append_nil _).symm, .nil⟩
  | cons call calls ih =>
    obtain ⟨hcall, htranscript, first, hfirst, hasks⟩ := call_shown hreaches hspeaks l m call
    obtain ⟨houtcomes, hsite, htranscripts, rest, hrest, hasks'⟩ :=
      ih (m.perform server conn l call).2
    rw [Site.outcomes, Site.performAll, Site.transcripts, outcomes, performAll, transcripts, hcall,
      htranscript]
    refine ⟨congrArg _ houtcomes, hsite, congrArg _ htranscripts, first ++ rest, ?_, ?_⟩
    · rw [hrest, hfirst, List.append_assoc]
    · rw [queries_append]
      exact List.rel_append hasks hasks'

end Remote

/-! ## Refusals in other words -/

namespace Site

variable (c : Coordinator κ) (conn : Connection) (server : Server κ)

/-- Other words for a failure change nothing, or say a failure in both cases. -/
theorem mapError_alike {α : Type} (answered : Except Failure α → Exchange Surroundings)
    (hfails : ∀ f, failure? (answered (.error f)) = some f) (o : Except Failure α) (other : Failure) :
    o.mapError (fun _ => other) = o ∨ ∃ f f', failure? (answered o) = some f ∧
      failure? (answered (o.mapError fun _ => other)) = some f' := by
  cases o with
  | ok a => exact .inl rfl
  | error f => exact .inr ⟨f, other, hfails f, hfails other⟩

theorem alike_heard (store : Store) :
    Alike (answer c store) (answer (c.heard conn server) store) := by
  intro q s
  cases q with
  | entryOf a => exact ⟨rfl, mapError_alike (fun o => ⟨.entryOf a, o⟩) (fun _ => rfl) _ _⟩
  | register r => exact ⟨rfl, mapError_alike (fun o => ⟨.register r, o⟩) (fun _ => rfl) _ _⟩
  | activate a r => exact ⟨rfl, mapError_alike (fun o => ⟨.activate a r, o⟩) (fun _ => rfl) _ _⟩
  | deactivate a => exact ⟨rfl, mapError_alike (fun o => ⟨.deactivate a, o⟩) (fun _ => rfl) _ _⟩
  | load => exact ⟨rfl, .inl rfl⟩
  | save r => exact ⟨rfl, .inl rfl⟩
  | clear => exact ⟨rfl, .inl rfl⟩
  | now => exact ⟨rfl, .inl rfl⟩
  | note e => exact ⟨rfl, .inl rfl⟩

/-- What is heard of a coordinator leaves the same behind as what it says, and is asked the same. -/
theorem calls_heard (l : Lifecycle) (s : Site κ) (calls : List Call) :
    s.performAll l (c.heard conn server) calls = s.performAll l c calls ∧
      asked (s.transcripts l (c.heard conn server) calls) = asked (s.transcripts l c calls) := by
  induction calls generalizing s with
  | nil => exact ⟨rfl, rfl⟩
  | cons call calls ih =>
    have hcall : (s.perform l (c.heard conn server) call).2 = (s.perform l c call).2 ∧
        asked (s.transcript l (c.heard conn server) call) = asked (s.transcript l c call) :=
      run_alike (alike_heard c conn server l.store) (givesUp_perform l call.operation)
        (s.showing call.instant)
    rw [performAll, performAll, transcripts, transcripts, asked_append, asked_append, hcall.1,
      hcall.2]
    exact ⟨(ih _).1, congrArg _ (ih _).2⟩

end Site

/-! ## Connections to a plain origin -/

/-- A connection to a URL that takes resources and leaves room for them reaches the coordinator there, if
nothing is to be sent again and the token may stand in a header. -/
theorem reaches_of_connect {base : String} {apiKey : Option String} {timeout : Client.Span}
    {retry : Client.Retry} {conn : Connection}
    (hconn : Client.connect base apiKey timeout retry = .ok conn)
    (htakes : Client.TakesResources base) (hkey : Client.IsLegalKey apiKey)
    (honce : retry.maxRetries = 0) {u : Url} (hu : Url.parse base = .ok u)
    (hroom : Client.LeavesRoom u) : Reaches conn u := by
  refine ⟨?_, Query.made_asks hconn hu htakes hroom hkey⟩
  obtain ⟨rfl, -⟩ := Client.connect_ok hconn
  exact honce

/-- Calls over a connection to a plain origin that leaves room for resources, without a token or with one
that may stand in a header, and without sending anything again. If the coordinator speaks through the server there, they end with
what is heard of it, which is what it says but for the words of refusals; they leave behind what they
leave with the coordinator at hand, and ask the same in the same order; and the requests that are sent
put the queries among it, with their values. -/
theorem network_is_transparent (l : Lifecycle) {base : String} {apiKey : Option String}
    {timeout : Client.Span} {retry : Client.Retry} {conn : Connection}
    (hconn : Client.connect base apiKey timeout retry = .ok conn)
    (horigin : Client.IsPlainOrigin base) (hkey : Client.IsLegalKey apiKey)
    (honce : retry.maxRetries = 0) {u : Url} (hu : Url.parse base = .ok u)
    (hroom : Client.LeavesRoom u) {c : Coordinator κ} {server : Server κ} (hspeaks : Speaks u c server) (m : Remote κ) (calls : List Call) :
    m.outcomes server conn l calls = m.site.outcomes l (c.heard conn server) calls ∧
      (m.performAll server conn l calls).site = m.site.performAll l c calls ∧
      asked (m.transcripts server conn l calls) = asked (m.site.transcripts l c calls) ∧
      ∃ requests, (m.performAll server conn l calls).sent = m.sent ++ requests ∧
        List.Forall₂ (Query.Asks u) (queries (m.site.transcripts l c calls)) requests := by
  have hreaches := reaches_of_connect hconn horigin.takesResources hkey honce hu hroom
  obtain ⟨houtcomes, hsite, htranscripts, requests, hsent, hasks⟩ :=
    Remote.calls_shown hreaches hspeaks l m calls
  obtain ⟨hleft, hasked⟩ := Site.calls_heard c conn server l m.site calls
  rw [← htranscripts] at hasked
  have hqueries : queries (m.transcripts server conn l calls) =
      queries (m.site.transcripts l c calls) :=
    congrArg (List.filterMap query?) hasked
  refine ⟨houtcomes, hsite.trans hleft, hasked, requests, hsent, ?_⟩
  rw [← hqueries]
  exact hasks

/-! ## A server to look at -/

namespace Sample

def refusal : Http.Response :=
  ⟨409, [], some []⟩

def receipt (r : Registration.Request) : Registration.Receipt :=
  ⟨r.address, "reg-1", .registered, noon, 0⟩

/-- A coordinator that knows no node, registers every node, and refuses everything else. -/
def clerk : Coordinator Unit where
  entryOf a k := (.ok (.unknown a), k)
  register r k := (.ok (receipt r), k)
  activate _ _ k := (.error (.internal "closed"), k)
  deactivate _ k := (.error (.internal "closed"), k)

def accepted (r : Registration.Request) : Http.Response :=
  (Query.register r).said (.ok (receipt r))

/-- The answer of the server behind which the clerk is. -/
def spoken (r : Http.Request) : Http.Response :=
  match r.method, r.body.map (Json.decode Registration.Request.codec) with
  | .get, _ => ⟨404, [], some []⟩
  | .post, some (.ok request) =>
    if r.url.path.text = Client.Connection.nodesPath.toList then accepted request else refusal
  | .post, _ => refusal

def desk : Server Unit :=
  fun r k => (spoken r, k)

theorem spoken_refusal {r : Http.Request} (hmethod : r.method = .post)
    (hpath : r.url.path.text ≠ Client.Connection.nodesPath.toList) : spoken r = refusal := by
  unfold spoken
  rw [hmethod]
  split
  · next h => cases h
  · exact if_neg hpath
  · rfl

theorem spoken_final (r : Http.Request) (here : Url) :
    (spoken r).arriving = spoken r ∧ (spoken r).onward? here = none := by
  unfold spoken
  split
  · exact ⟨rfl, rfl⟩
  · split
    · exact Client.said_final _ _ here
    · exact ⟨rfl, rfl⟩
  · exact ⟨rfl, rfl⟩

/-- The clerk speaks through the desk at an origin. -/
theorem speaks_desk {u : Url} (hu : Url.withoutSlashes u.path.text = []) : Speaks u clerk desk := by
  intro q r k hasks
  have hpath : r.url.path.text = q.path.toList := by
    rw [hasks.url.path, hu, List.nil_append]
  -- The resource of a node is longer than that of all nodes.
  have hnode : ∀ (a : Address) (rest : String), r.method = .post →
      r.url.path.text = (Client.Connection.nodePath a ++ rest).toList → spoken r = refusal := by
    intro a rest hmethod hnode
    refine spoken_refusal hmethod fun hnodes => ?_
    rw [hnode, Client.Connection.nodePath] at hnodes
    have hlength := congrArg List.length hnodes
    simp only [String.toList_append, List.length_append] at hlength
    have hslash : "/".toList.length = 1 := rfl
    omega
  obtain ⟨harriving, hfinal⟩ := spoken_final r r.url
  have hfinal : (desk r k).1.onward? r.url = none := hfinal
  have harriving : (desk r k).1.arriving = spoken r := harriving
  rw [harriving]
  refine ⟨?_, hfinal, rfl⟩
  cases q with
  | entryOf a =>
    have hmethod : r.method = .get := hasks.method
    refine .unknown ?_
    unfold spoken
    rw [hmethod]
  | register request =>
    obtain ⟨body, hbody, hdecode⟩ := hasks.carries
    have hmethod : r.method = .post := hasks.method
    have hspoken : spoken r = accepted request := by
      unfold spoken
      rw [hmethod, hbody, Option.map_some, hdecode]
      exact if_pos hpath
    rw [hspoken]
    exact Client.represents_said (.register request) (.ok (receipt request))
  | activate a request =>
    rw [hnode a _ hasks.method hpath]
    exact .refusal (show 200 ≤ 409 by decide) rfl fun address h => by cases h
  | deactivate a =>
    rw [hnode a _ hasks.method hpath]
    exact .refusal (show 200 ≤ 409 by decide) rfl fun address h => by cases h

def closed : Coordinator Unit where
  entryOf _ k := (.error (.internal "closed"), k)
  register _ k := (.error (.internal "closed"), k)
  activate _ _ k := (.error (.internal "closed"), k)
  deactivate _ k := (.error (.internal "closed"), k)

/-- A server that refuses everything with the code that stands for an unknown node. -/
def missing : Server Unit :=
  fun _ k => (⟨404, [], some []⟩, k)

/-- A server that refuses everything by sending clients on. -/
def restless : Server Unit :=
  fun _ k => (⟨302, [("location", "/")], some []⟩, k)

/-- A coordinator that tells of no entry but one, and refuses everything else. -/
def stubborn : Coordinator Unit :=
  { closed with entryOf := fun _ k => (.ok (.unknown owner), k) }

/-- A server that tells of that entry with a code that comes without a body. -/
def hushed : Server Unit := fun r k =>
  match r.method with
  | .get => ({ (Query.entryOf owner).said (.ok (.unknown owner)) with status := 204 }, k)
  | .post => (refusal, k)

theorem represents_restless (q : Query) (r : Http.Request) (k : Unit) :
    Represents q (closed.answer q k).1 (restless r k).1 := by
  have hrefused : ∃ f, (closed.answer q k).1 = .error f := by cases q <;> exact ⟨_, rfl⟩
  obtain ⟨f, hf⟩ := hrefused
  rw [hf]
  exact .refusal (show 200 ≤ 302 by decide) rfl fun _ _ h => by cases h

/-- What is hushed is a success with the value, and what is not stands for the refusal. -/
theorem represents_hushed {base : Url} {q : Query} {r : Http.Request} (hasks : q.Asks base r) (k : Unit) :
    Represents q (stubborn.answer q k).1 (hushed r k).1 ∨
      ∃ v, (stubborn.answer q k).1 = .ok v ∧ (hushed r k).1.isSuccess = true ∧
        (hushed r k).1.body = (q.said (.ok v)).body := by
  have hmethod := hasks.method
  have hpost : r.method = .post → (hushed r k).1 = refusal := fun h => by rw [hushed, h]
  cases q with
  | entryOf a =>
    have hget : (hushed r k).1 =
        { (Query.entryOf owner).said (.ok (.unknown owner)) with status := 204 } := by
      rw [hushed, show r.method = .get from hmethod]
    rw [hget]
    exact .inr ⟨.unknown owner, rfl, rfl, rfl⟩
  | _ =>
    rw [hpost hmethod]
    exact .inl (.refusal (show 200 ≤ 409 by decide) rfl fun _ h => by cases h)

/-- A site with a network, before anything was sent. -/
def remote : Remote Unit :=
  ⟨site (), []⟩

theorem origin_plain : Client.IsPlainOrigin "http://[::1]" :=
  ⟨['[', ':', ':', '1', ']'], 0, rfl, List.all_eq_true.1 rfl⟩

theorem origin_parsed :
    ∃ u, Url.parse "http://[::1]" = .ok u ∧ Url.withoutSlashes u.path.text = [] ∧
      Client.LeavesRoom u :=
  ⟨_, rfl, rfl, by decide⟩

/-- A connection to that origin. -/
def line (apiKey : Option String) : Connection :=
  ⟨"http://[::1]", apiKey, .ofSeconds 30, { maxRetries := 0 }⟩

theorem origin_connected (apiKey : Option String) :
    Client.connect "http://[::1]" apiKey (.ofSeconds 30) { maxRetries := 0 } = .ok (line apiKey) := rfl

end Sample

/-- A node is registered at the desk of the clerk. -/
theorem sample_network_is_transparent :
    ∃ conn u, Client.connect "http://[::1]" none (.ofSeconds 30) { maxRetries := 0 } = .ok conn ∧
      Url.parse "http://[::1]" = .ok u ∧ Client.LeavesRoom u ∧ Speaks u Sample.clerk Sample.desk ∧
      Sample.remote.outcomes Sample.desk conn Sample.home [⟨.register, Sample.noon⟩] =
        [.ok (.register (.registered (Sample.receipt Sample.home.registration)))] := by
  obtain ⟨u, hu, hpath, hroom⟩ := Sample.origin_parsed
  have hspeaks := Sample.speaks_desk hpath
  refine ⟨_, u, Sample.origin_connected none, hu, hroom, hspeaks, ?_⟩
  obtain ⟨houtcomes, -⟩ := network_is_transparent Sample.home (Sample.origin_connected none)
    Sample.origin_plain rfl rfl hu hroom hspeaks Sample.remote [⟨.register, Sample.noon⟩]
  rw [houtcomes]
  rfl

/-- The network is noticed in five cases. With a token that may not stand in a header nothing is sent, nor
to a URL that no request may be sent to; a refusal whose code stands for an unknown node is taken for one;
a refusal that sends the client on is not the end of it; and a success that comes without a body tells
nothing. -/
theorem network_is_noticed :
    (∃ conn u, Client.connect "http://[::1]" (some "\n") (.ofSeconds 30) { maxRetries := 0 } =
        .ok conn ∧
      Client.IsPlainOrigin "http://[::1]" ∧ Url.parse "http://[::1]" = .ok u ∧
      Speaks u Sample.clerk Sample.desk ∧
      Sample.remote.outcomes Sample.desk conn Sample.home [⟨.status, Sample.noon⟩] ≠
        Sample.remote.site.outcomes Sample.home (Sample.clerk.heard conn Sample.desk)
          [⟨.status, Sample.noon⟩]) ∧
    (∀ (conn : Connection) (q : Query) (v : Url), Url.parse (conn.urlOf q.path) = .ok v →
      Http.isTarget (Client.askedUrl v) = false → ∃ f, q.made conn = .error f) ∧
    ∃ conn, Client.connect "http://[::1]" none (.ofSeconds 30) { maxRetries := 0 } = .ok conn ∧
      ((∀ q k, ∃ f, (Sample.closed.answer q k).1 = .error f) ∧
        (∀ r k, (Sample.missing r k).1.isSuccess = false) ∧
        Sample.remote.outcomes Sample.missing conn Sample.home [⟨.status, Sample.noon⟩] ≠
          Sample.remote.site.outcomes Sample.home (Sample.closed.heard conn Sample.missing)
            [⟨.status, Sample.noon⟩]) ∧
      ((∀ q r k, Represents q (Sample.closed.answer q k).1 (Sample.restless r k).1) ∧
        Sample.remote.outcomes Sample.restless conn Sample.home [⟨.status, Sample.noon⟩] ≠
          Sample.remote.site.outcomes Sample.home (Sample.closed.heard conn Sample.restless)
            [⟨.status, Sample.noon⟩]) ∧
      (∀ (u : Url) (q : Query) r k, q.Asks u r →
          Represents q (Sample.stubborn.answer q k).1 (Sample.hushed r k).1 ∨
            ∃ v, (Sample.stubborn.answer q k).1 = .ok v ∧ (Sample.hushed r k).1.isSuccess = true ∧
              (Sample.hushed r k).1.body = (q.said (.ok v)).body) ∧
        Sample.remote.outcomes Sample.hushed conn Sample.home [⟨.status, Sample.noon⟩] ≠
          Sample.remote.site.outcomes Sample.home (Sample.stubborn.heard conn Sample.hushed)
            [⟨.status, Sample.noon⟩] := by
  refine ⟨?_, fun conn q v => Query.made_of_not_isTarget, ?_⟩
  · obtain ⟨u, hu, hpath, -⟩ := Sample.origin_parsed
    refine ⟨_, u, Sample.origin_connected _, Sample.origin_plain, hu, Sample.speaks_desk hpath, ?_⟩
    have hremote : Sample.remote.outcomes Sample.desk (Sample.line (some "\n")) Sample.home
        [⟨.status, Sample.noon⟩] = [.error (.transport "builder error")] := rfl
    rw [hremote]
    exact nofun
  refine ⟨_, Sample.origin_connected none, ⟨?_, fun _ _ => rfl, ?_⟩,
    ⟨Sample.represents_restless, ?_⟩, fun _ _ _ k hasks => Sample.represents_hushed hasks k, ?_⟩
  · intro q k
    cases q <;> exact ⟨_, rfl⟩
  · have hremote : Sample.remote.outcomes Sample.missing (Sample.line none) Sample.home
        [⟨.status, Sample.noon⟩] = [.ok (.status ⟨.unknown Sample.owner, none, 0⟩)] := rfl
    rw [hremote]
    exact nofun
  · have hremote : Sample.remote.outcomes Sample.restless (Sample.line none) Sample.home
        [⟨.status, Sample.noon⟩] =
          [.error (.transport "error following redirect for url (http://[::1]/)")] := by
      decide +kernel
    rw [hremote]
    exact nofun
  · have hremote : (Sample.remote.outcomes Sample.hushed (Sample.line none) Sample.home
        [⟨.status, Sample.noon⟩]).map Except.toBool = [false] := by
      decide +kernel
    intro hsame
    rw [hsame] at hremote
    cases hremote

end Enrollment.Lifecycle
