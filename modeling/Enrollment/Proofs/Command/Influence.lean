import Enrollment.Proofs.Command.ReleaseCheck
import Enrollment.Proofs.Files.Drive
import Enrollment.Proofs.Host.Parts
/-!
# What the look at releases does to a run

It sends one request, and those that the answers to it send the client on to, and notes what came of it. So
on a machine of parts, a run that looks for releases is the run that does not, on the network as it is once
the manifest was asked for, as long as what is noted does not end up in the record: the log file must be
another one than that of the record and that of its draft.

Results:
 1. `Command.only_carryOut`: what a command on the node sends, and what it does with the disk.
 2. `Invocation.log_of_prepared`: which log file is open when a command starts.
 3. `Program.look_makes_no_difference`: the two runs.
 4. `Program.look_makes_a_difference`: what answers that send a client on, and a log file in the place of
    the record, make of them.
-/

namespace Enrollment

open Client (Connection Query WireRequest)
open Files (Drive Scribe)
open Host (Parts sent printed)
open Plan (Only)
open Registration (Store)

variable {α δ ν κ τ : Type}

/-! ## What is asked on behalf of a node -/

/-- A step concerns no other file than that of the record and that of its draft, and does not open a log
file. -/
def Registration.Store.Owns (store : Store) : Files.Step → Prop
  | .read path => path = store.path
  | .makeDirectories _ => True
  | .write path _ => path = store.draft
  | .move source target => source = store.draft ∧ target = store.path
  | .remove path => path = store.path
  | .note _ => True
  | _ => False

namespace Registration.Store

theorem only_load (store : Store) : Only store.Owns store.load := by
  refine Only.bind (Only.bind (Plan.only_request (by rfl)) fun read => ?_) fun read => Plan.only_done
  cases read with
  | error fault => exact Plan.only_done
  | ok bytes =>
    dsimp only
    split
    · exact Plan.only_done
    · exact Plan.only_done

theorem only_prepare (store : Store) : Only store.Owns store.prepare := by
  unfold prepare
  split
  · exact Plan.only_done
  · split
    · exact Plan.only_done
    · exact Plan.only_request trivial

theorem only_save (store : Store) (record : Record) : Only store.Owns (store.save record) := by
  refine Only.bind store.only_prepare fun prepared => ?_
  cases prepared with
  | error fault => exact Plan.only_done
  | ok _ =>
    refine Only.bind (Plan.only_request (by rfl)) fun written => ?_
    cases written with
    | error fault => exact Plan.only_done
    | ok _ =>
      refine Only.bind (Plan.only_request ⟨rfl, rfl⟩) fun moved => ?_
      cases moved with
      | error fault => exact Plan.only_done
      | ok _ => exact Only.bind (Plan.only_request trivial) fun _ => Plan.only_done

theorem only_clear (store : Store) : Only store.Owns store.clear := by
  refine Only.bind (Plan.only_request (by rfl)) fun removed => ?_
  cases removed with
  | error fault => cases fault <;> exact Plan.only_done
  | ok _ => exact Only.bind (Plan.only_request trivial) fun _ => Plan.only_done

/-- What concerns the record and its draft spares every other file. -/
theorem spares_of_owns {store : Store} {s : Files.Step} (h : store.Owns s) {here : Files.Place}
    {off : Option Files.Place}
    (hoff : ∀ kept ∈ [store.path, store.draft], off ≠ some (Files.Path.place here kept)) :
    s.Spares here off := by
  have hpath := hoff store.path (by simp)
  have hdraft := hoff store.draft (by simp)
  cases s with
  | read path =>
    obtain rfl : path = store.path := h
    exact hpath
  | write path content =>
    obtain rfl : path = store.draft := h
    exact hdraft
  | move source target =>
    obtain ⟨rfl, rfl⟩ : source = store.draft ∧ target = store.path := h
    exact ⟨hdraft, hpath⟩
  | remove path =>
    obtain rfl : path = store.path := h
    exact hpath
  | makeDirectories path => trivial
  | note e => trivial
  | probe path => trivial
  | openLog path filter => exact h.elim

end Registration.Store

/-- What is sent asks the coordinator of a connection, and what is done with the disk concerns the record
in a store. -/
structure Host.Step.Serves (c : Connection) (store : Store) (s : Host.Step) : Prop where
  sent : ∀ r ∈ s.sent?, ∃ q : Query, q.made c = .ok r
  disk : ∀ q ∈ s.disk?, store.Owns q

namespace Host.Step

variable {c : Connection} {store : Store} {s : Host.Step}

theorem serves_of_silent (hsent : s.sent? = none) (hdisk : s.disk? = none) : Serves c store s where
  sent r hr := by
    rw [hsent] at hr
    cases hr
  disk q hq := by
    rw [hdisk] at hq
    cases hq

theorem serves_of_disk (hsent : s.sent? = none) {q : Files.Step} (hdisk : s.disk? = some q)
    (hq : store.Owns q) : Serves c store s where
  sent r hr := by
    rw [hsent] at hr
    cases hr
  disk q' hq' := by
    rw [hdisk] at hq'
    exact Option.some.inj hq' ▸ hq

end Host.Step

namespace Command

open Host.Step (Serves serves_of_disk serves_of_silent)

theorem only_query (c : Connection) (store : Store) (q : Query) :
    Only (Serves c store) (Host.onWire (q.plan c)) := by
  refine Host.only_onWire ((q.only_plan c).mono fun r hr => ?_)
  cases r with
  | send made timeout =>
    refine ⟨fun r' hr' => ⟨q, Option.some.inj hr' ▸ hr⟩, fun s hs => ?_⟩
    cases hs
  | wait span => exact serves_of_silent rfl rfl
  | note e => exact serves_of_disk rfl rfl trivial

theorem only_onDisk (c : Connection) {store : Store} {p : Plan Files.Disk α} (h : Only store.Owns p) :
    Only (Serves c store) (Host.onDisk p) :=
  Host.only_onDisk (h.mono fun _ hs => serves_of_disk rfl rfl hs)

/-- An operation asks the coordinator of its connection, and keeps its record. -/
theorem only_outcome (c : Connection) (l : Lifecycle) (act : Lifecycle.Act α) :
    Only (Serves c ⟨l.recordPath⟩) (outcome c l act) := by
  refine Plan.only_implementBy _ fun step => ?_
  cases step with
  | entryOf a => exact only_query c _ (.entryOf a)
  | register r => exact only_query c _ (.register r)
  | activate a r => exact only_query c _ (.activate a r)
  | deactivate a => exact only_query c _ (.deactivate a)
  | load => exact only_onDisk c (Store.only_load _)
  | save r => exact only_onDisk c (Store.only_save _ r)
  | clear => exact only_onDisk c (Store.only_clear _)
  | now => exact Plan.only_request (serves_of_silent rfl rfl)
  | note e => exact Plan.only_request (serves_of_disk rfl rfl trivial)

theorem only_present (c : Connection) (store : Store) (s : Session) (document : Document.Value)
    (lines : List String) :
    Only (Serves c store) (Task.lift (s.present document lines)).run := by
  rw [Session.present, Output.present_eq]
  exact Task.only_lift (Plan.only_request (serves_of_silent rfl rfl))

/-- Once the life of the node is at hand, only the coordinator is asked, and only the record is kept. -/
theorem only_carryOut (s : Session) (c : Connection) (l : Lifecycle) (command : Command) :
    Only (Serves c ⟨l.recordPath⟩) (command.carryOut s c l).run := by
  cases command with
  | register =>
    exact Task.only_bind (Task.only_attempt (only_outcome c l _)) fun o => only_present c _ s _ _
  | activate =>
    refine Task.only_bind (Task.only_lift (only_outcome c l _)) fun o => ?_
    cases o with
    | error f => exact Plan.only_done
    | ok o => exact only_present c _ s _ _
  | deactivate =>
    exact Task.only_bind (Task.only_attempt (only_outcome c l _)) fun o => only_present c _ s _ _
  | status =>
    exact Task.only_bind (Task.only_attempt (only_outcome c l _)) fun o => only_present c _ s _ _
  | _ => exact Plan.only_done

/-- Behind the look at releases, only the coordinator is asked. -/
theorem only_behindLook (s : Session) (command : Command) (c : Connection) :
    Only (fun q : Host.Step => ∀ r ∈ q.sent?, ∃ q : Query, q.made c = .ok r)
      (behindLook s command c).run :=
  Task.only_bind (Task.only_ofExcept _) fun l => (only_carryOut s c l command).mono fun _ h => h.sent

end Command

/-! ## The log file -/

/-- The settings name a file that events are written to at an instant. -/
def Settings.LogsTo (s : Settings) (env : Environment) (now : Instant) (file : String) : Prop :=
  ∃ path directory, s.logPath env = .ok (some path) ∧
    Log.fileAt? s.log path now = some (directory, file)

/-- Events are written to another file than that of the record and that of its draft. -/
def Settings.LogsApart (s : Settings) (env : Environment) (here : Files.Place) (now : Instant) : Prop :=
  ∀ file record, s.LogsTo env now file → s.recordPath env = .ok record →
    ∀ kept ∈ [record, (Store.mk record).draft],
      Files.Path.place here file ≠ Files.Path.place here kept

theorem Log.only_openLogFile {s : Settings.Log} {path directory file : String} {now : Instant}
    (hfile : fileAt? s path now = some (directory, file)) :
    Only (Files.Step.IsOpening file) (openLogFile s path now) := by
  unfold openLogFile
  rw [hfile]
  refine Only.bind (Plan.only_request trivial) fun made => ?_
  cases made with
  | error fault => exact Plan.only_done
  | ok _ =>
    refine Only.bind (Only.bind (Plan.only_request (by rfl)) fun opened => ?_) fun _ => Plan.only_done
    cases opened with
    | ok _ => exact Plan.only_done
    | error fault =>
      refine Only.bind (Plan.only_request trivial) fun made => ?_
      cases made with
      | error fault => exact Plan.only_done
      | ok _ => exact Only.bind (Plan.only_request (by rfl)) fun _ => Plan.only_done

section

variable (scribe : Scribe τ) (exchange : Client.Span → Http.Request → ν → Http.Outcome × ν)
  (clock : κ → Instant × κ)

/-- Without a log file, looking at the disk changes nothing. -/
theorem Host.Parts.run_onWeb_looking {p : Plan Host α}
    (hp : p.Only fun q : Host.Step => ∃ s : Files.Step, q = .disk s ∧ s.changes = false)
    {w : Parts.State (Drive τ) ν κ} (hlog : w.disk.log = none) :
    (p.run (Parts.onWeb scribe exchange clock).answer w).2 = w := by
  refine hp.run_keeps _ (K := (· = w)) ?_ rfl
  rintro q w ⟨s, rfl, hs⟩ rfl
  cases s with
  | read path => rfl
  | probe path => rfl
  | note e =>
    have hnote : w.disk.note scribe e = w.disk := by
      unfold Drive.note
      rw [hlog]
    show { w with disk := w.disk.note scribe e } = w
    rw [hnote]
  | _ => cases hs

/-- When a command starts, the log file that is open is the one that the settings name. -/
theorem Invocation.log_of_prepared {i : Invocation} {env : Environment} {s : Settings}
    {w : Parts.State (Drive τ) ν κ} (hlog : w.disk.log = none)
    (h : ((i.prepared env).run.run (Parts.onWeb scribe exchange clock).answer w).1 = .ok s) :
    let d := ((i.prepared env).run.run (Parts.onWeb scribe exchange clock).answer w).2.disk
    d.tree.here = w.disk.tree.here ∧ ∀ log ∈ d.log, ∃ file, s.LogsTo env (clock w.clock).1 file ∧
      log.place = Files.Path.place w.disk.tree.here file := by
  have hsettings := i.settings_of_prepared h
  have hsame := Parts.run_onWeb_looking scribe exchange clock
    (i.only_settings fun step hstep => ⟨step, rfl, hstep⟩) hlog
  unfold prepared at h ⊢
  rw [(Task.bind_of_ok hsettings).1, hsame] at h ⊢
  have hready : ((i.ready env s >>= fun _ => pure s).run.run
      (Parts.onWeb scribe exchange clock).answer w).2 =
      ((i.ready env s).run.run (Parts.onWeb scribe exchange clock).answer w).2 := by
    rw [Task.run_bind, Plan.run_bind]
    cases ((i.ready env s).run.run (Parts.onWeb scribe exchange clock).answer w).1 <;> rfl
  rw [hready]
  rcases i.ready_cases env s with ⟨o, ho⟩ | ⟨path, hpath, ho⟩
  · rw [ho]
    refine ⟨rfl, fun log hopen => ?_⟩
    have hopen : log ∈ w.disk.log := hopen
    rw [hlog] at hopen
    cases hopen
  · -- The clock is read once, and the log file is opened for that instant.
    have hrun : ((i.ready env s).run.run (Parts.onWeb scribe exchange clock).answer w).2 =
        ((Log.openLogFile s.log path (clock w.clock).1).run
          (fun q v => (Parts.onWeb scribe exchange clock).answer (.disk q) v)
          ⟨w.disk, w.network, (clock w.clock).2⟩).2 := by
      rw [ho, Plan.run_bind, Host.run_onDisk]
      rfl
    rw [hrun]
    cases hfile : Log.fileAt? s.log path (clock w.clock).1 with
    | none =>
      unfold Log.openLogFile
      rw [hfile]
      refine ⟨rfl, fun log hopen => ?_⟩
      have hopen : log ∈ w.disk.log := hopen
      rw [hlog] at hopen
      cases hopen
    | some found =>
      have hopened := (Log.only_openLogFile hfile).run_keeps
        (fun q v => (Parts.onWeb scribe exchange clock).answer (.disk q) v)
        (K := fun v => v.disk.LogsTo w.disk.tree.here found.2)
        (s := ⟨w.disk, w.network, (clock w.clock).2⟩)
        (fun q v hq hv => hv.answer scribe hq) ⟨rfl, fun log hopen => by
          rw [show w.disk.log = none from hlog] at hopen
          cases hopen⟩
      exact ⟨hopened.start, fun log hopen => ⟨found.2, ⟨path, found.1, hpath, hfile⟩,
        hopened.place log hopen⟩⟩

end

/-! ## The two runs -/

def Session.withoutLook (s : Session) : Session :=
  { s with skipsReleaseCheck := true }

def Invocation.withoutLook (i : Invocation) : Invocation :=
  { i with skipsReleaseCheck := true }

/-- The manifest at a URL was asked for, and then what the answers sent the client on to. The network is
as it is then. -/
def Release.Asked (exchange : Client.Span → Http.Request → ν → Http.Outcome × ν) (url : String)
    (manifest : List Http.Request) (before after : ν) : Prop :=
  ∃ r timeout others, manifestRequest url = .ok r ∧ manifest = [r] ∧
    (Http.journey (exchange timeout) r before).requests = r :: others ∧
    others.length ≤ Http.onwardLimit ∧
    after = (Http.journey (exchange timeout) r before).network

theorem Release.asked_journey (exchange : Client.Span → Http.Request → ν → Http.Outcome × ν)
    {url : String} {r : Http.Request} (hr : manifestRequest url = .ok r) (timeout : Client.Span)
    (before : ν) :
    Asked exchange url [r] before (Http.journey (exchange timeout) r before).network := by
  have hway : ∃ others, (Http.journey (exchange timeout) r before).requests = r :: others ∧
      others.length ≤ Http.onwardLimit := Http.requests_follow _ _ _ _
  obtain ⟨others, hothers, hlength⟩ := hway
  exact ⟨r, timeout, others, hr, rfl, hothers, hlength, rfl⟩

/-- A run does what another one does, behind some requests and but for what the log file holds. -/
structure Host.Parts.Repeats (m : Parts (Drive τ) ν κ) (requests : List Http.Request)
    (p p' : Plan Host α) (w w' : Parts.State (Drive τ) ν κ) : Prop where
  value : (p.run m.answer w).1 = (p'.run m.answer w').1
  after : (p.run m.answer w).2.Alike Drive.Alike (p'.run m.answer w').2
  sent : sent (p.transcript m.answer w) = requests ++ sent (p'.transcript m.answer w')
  printed : printed (p.transcript m.answer w) = printed (p'.transcript m.answer w')

theorem Session.connect_of_connection {s : Session} {c : Connection} (h : s.connection = .ok c) :
    s.settings.coordinator.connect = .ok c := by
  have hvalid := validate_of_connection h
  unfold connection at h
  rw [hvalid] at h
  cases hconnect : s.settings.coordinator.connect with
  | error f =>
    rw [hconnect] at h
    cases h
  | ok c' =>
    rw [hconnect] at h
    cases h
    rfl

theorem Session.recordPath_of_lifecycle {s : Session} {c : Connection} {l : Lifecycle}
    (h : s.lifecycle c = .ok l) : s.settings.recordPath s.environment = .ok l.recordPath := by
  unfold lifecycle Settings.lifecycle at h
  cases hrecord : s.settings.recordPath s.environment with
  | error f =>
    rw [hrecord] at h
    cases h
  | ok record =>
    rw [hrecord] at h
    cases haddress : s.settings.nodeAddress with
    | error f =>
      rw [haddress] at h
      cases h
    | ok address =>
      rw [haddress] at h
      cases hpayment : s.settings.paymentAddress with
      | error f =>
        rw [hpayment] at h
        cases h
      | ok payment =>
        rw [hpayment] at h
        cases h
        rfl

namespace Command

theorem behindLook_withoutLook (s : Session) (command : Command) (c : Connection) :
    behindLook s.withoutLook command c = behindLook s command c := by
  cases command <;> rfl

theorem run_continueOver (s : Session) {command : Command} (hlooks : command.looksForRelease = true)
    (c : Connection) :
    (continueOver s command c).run = (s.checkRelease c).bind fun _ => (behindLook s command c).run := by
  unfold continueOver
  rw [if_pos hlooks, Task.run_bind, Task.run_lift, Plan.bind_assoc]
  rfl

/-- With the life of the node at hand, a command looks for releases first and is then carried out. -/
theorem run_of_lifecycle {s : Session} {c : Connection} (hc : s.connection = .ok c) {l : Lifecycle}
    (hl : s.lifecycle c = .ok l) {command : Command} (hlooks : command.looksForRelease = true) :
    (run s command).run = (s.checkRelease c).bind fun _ => (carryOut s c l command).run := by
  rw [run_eq s (concernsNode_of_looksForRelease hlooks), hc]
  show (continueOver s command c).run = _
  rw [run_continueOver s hlooks]
  unfold behindLook
  rw [hl]
  rfl

end Command

section

variable (scribe : Scribe τ) (exchange : Client.Span → Http.Request → ν → Http.Outcome × ν)
  (clock : κ → Instant × κ)

/-- The look at releases changes nothing but the network and the log file, and prints nothing. -/
theorem Session.run_checkRelease (s : Session) (c : Connection) (w : Parts.State (Drive τ) ν κ) :
    let answer := (Parts.onWeb scribe exchange clock).answer
    ∃ network,
      (sent ((s.checkRelease c).transcript answer w) = [] ∧ network = w.network ∨
        Release.Asked exchange s.settings.releaseCheck.url
          (sent ((s.checkRelease c).transcript answer w)) w.network network) ∧
      ((s.checkRelease c).run answer w).2.Alike
        (Drive.AlikeOff w.disk.tree.here (w.disk.log.map Files.Sink.place)) (w.on network) ∧
      printed ((s.checkRelease c).transcript answer w) = [] := by
  intro answer
  have hquiet : ∀ {p : Plan Host Unit} {v v' : Parts.State (Drive τ) ν κ},
      Only Host.Step.IsClientNote p →
      v.Alike (Drive.AlikeOff w.disk.tree.here (w.disk.log.map Files.Sink.place)) v' →
      (p.run answer v).2.Alike (Drive.AlikeOff w.disk.tree.here (w.disk.log.map Files.Sink.place)) v' ∧
        printed (p.transcript answer v) = [] := by
    intro p v v' hp hv
    refine ⟨Parts.run_noted (fun e d d' hd => hd.noted scribe e) hp hv,
      Host.printed_of_only (hp.mono fun q hq => ?_)⟩
    obtain ⟨e, rfl⟩ := hq.exists
    rfl
  have hsame : w.Alike (Drive.AlikeOff w.disk.tree.here (w.disk.log.map Files.Sink.place)) w :=
    ⟨.refl w.disk, rfl, rfl⟩
  rw [s.sent_checkRelease]
  rcases s.checkRelease_cases c with ⟨hnone, honly⟩ | ⟨r, hsome, before, behind, heq, hbefore, hbehind⟩
  · rw [hnone]
    exact ⟨w.network, .inl ⟨rfl, rfl⟩, hquiet honly hsame⟩
  · rw [hsome, heq]
    obtain ⟨halike, hprinted⟩ := hquiet hbefore hsame
    refine ⟨(Http.journey (exchange c.timeout) r w.network).network,
      .inr (Release.asked_journey exchange (made_of_manifest? hsome) c.timeout w.network), ?_⟩
    have hsent : (answer (.wire (.send r c.timeout)) (before.run answer w).2).2.Alike
        (Drive.AlikeOff w.disk.tree.here (w.disk.log.map Files.Sink.place))
        (w.on (Http.journey (exchange c.timeout) r w.network).network) := by
      refine ⟨halike.disk, ?_, halike.clock⟩
      show _ = (Http.journey (exchange c.timeout) r (before.run answer w).2.network).network
      rw [← halike.network]
      rfl
    obtain ⟨hafter, hbehindPrinted⟩ := hquiet (hbehind _) hsent
    rw [Plan.run_bind, Plan.run_bind, Plan.transcript_bind, Host.printed_append, hprinted]
    exact ⟨hafter, hbehindPrinted⟩

/-- With and without the look at releases, a command on the node comes to the same, if the log file is
another one than that of the record and that of its draft. -/
theorem Command.run_withoutLook (s : Session) {command : Command}
    (hlooks : command.looksForRelease = true) (w : Parts.State (Drive τ) ν κ)
    (hapart : ∀ record, s.settings.recordPath s.environment = .ok record →
      ∀ kept ∈ [record, (Store.mk record).draft],
        w.disk.log.map Files.Sink.place ≠ some (Files.Path.place w.disk.tree.here kept)) :
    let m := Parts.onWeb scribe exchange clock
    ∃ manifest network,
      (manifest = [] ∧ network = w.network ∨
        Release.Asked exchange s.settings.releaseCheck.url manifest w.network network) ∧
      m.Repeats manifest (run s command).run (run s.withoutLook command).run w (w.on network) ∧
      Drive.AlikeOff w.disk.tree.here (w.disk.log.map Files.Sink.place)
        ((run s command).run.run m.answer w).2.disk
        ((run s.withoutLook command).run.run m.answer (w.on network)).2.disk ∧
      ∀ r ∈ sent ((run s.withoutLook command).run.transcript m.answer (w.on network)),
        ∃ c, s.settings.coordinator.connect = .ok c ∧ ∃ q : Query, q.made c = .ok r := by
  intro m
  have hnode := concernsNode_of_looksForRelease hlooks
  rw [run_eq s hnode, run_eq s.withoutLook hnode]
  have hsame : s.withoutLook.connection = s.connection := rfl
  rw [hsame]
  cases hc : s.connection with
  | error t =>
    exact ⟨[], w.network, .inl ⟨rfl, rfl⟩, ⟨rfl, ⟨.refl w.disk, rfl, rfl⟩, rfl, rfl⟩, .refl w.disk,
      fun r hr => (List.not_mem_nil hr).elim⟩
  | ok c =>
    obtain ⟨network, hlooked, halike, hprinted⟩ := s.run_checkRelease scribe exchange clock c w
    have hwith : (Task.ofExcept (.ok c) >>= continueOver s command).run =
        (s.checkRelease c).bind fun _ => (behindLook s command c).run := run_continueOver s hlooks c
    have hwithout : (Task.ofExcept (.ok c) >>= continueOver s.withoutLook command).run =
        (behindLook s command c).run := by
      rw [← behindLook_withoutLook s]
      exact run_continueOver s.withoutLook hlooks c
    have hagrees : Only (fun q : Host.Step => ∀ step ∈ q.disk?,
        m.Agrees (Drive.AlikeOff w.disk.tree.here (w.disk.log.map Files.Sink.place)) step)
        (behindLook s command c).run := by
      unfold behindLook
      cases hl : s.lifecycle c with
      | error t => exact Plan.only_done
      | ok l =>
        refine (only_carryOut s c l command).mono fun q hq step hstep d d' hd => hd.answer scribe ?_
        exact Store.spares_of_owns (hq.disk step hstep) (hapart _ (Session.recordPath_of_lifecycle hl))
    obtain ⟨hvalue, hafter, htranscript⟩ := Parts.run_alike hagrees halike
    rw [hwith, hwithout]
    refine ⟨_, network, hlooked, ⟨?_, ?_, ?_, ?_⟩, ?_,
      fun r hr => ⟨c, Session.connect_of_connection hc, ?_⟩⟩
    · rw [Plan.run_bind, hvalue]
    · rw [Plan.run_bind]
      exact ⟨hafter.disk.alike, hafter.network, hafter.clock⟩
    · rw [Plan.transcript_bind, Host.sent_append, htranscript]
    · rw [Plan.transcript_bind, Host.printed_append, htranscript, hprinted, List.nil_append]
    · rw [Plan.run_bind]
      exact hafter.disk
    · exact Host.mem_sent_of_only (only_behindLook s command c) r hr

/-- With and without the look at releases, an invocation comes to the same, if the log file that its
settings name is another one than that of the record and that of its draft. -/
theorem Invocation.run_withoutLook (i : Invocation) (hlooks : i.command.looksForRelease = true)
    (env : Environment) (hasColors : Bool) {w : Parts.State (Drive τ) ν κ} (hlog : w.disk.log = none)
    (hapart : ∀ s, (i.settings.run.run (Parts.onWeb scribe exchange clock).answer w).1 = .ok s →
      s.LogsApart env w.disk.tree.here (clock w.clock).1) :
    let m := Parts.onWeb scribe exchange clock
    ∃ manifest network,
      (manifest = [] ∧ network = w.network ∨ ∃ s, (i.settings.run.run m.answer w).1 = .ok s ∧
        Release.Asked exchange s.releaseCheck.url manifest w.network network) ∧
      m.Repeats manifest (i.run env hasColors) (i.withoutLook.run env hasColors) w (w.on network) ∧
      (∀ s record, (i.settings.run.run m.answer w).1 = .ok s → s.recordPath env = .ok record →
        ((i.withoutLook.run env hasColors).run m.answer (w.on network)).2.disk.tree.read record =
          ((i.run env hasColors).run m.answer w).2.disk.tree.read record) ∧
      ∀ r ∈ sent ((i.withoutLook.run env hasColors).transcript m.answer (w.on network)), ∃ s c,
        (i.settings.run.run m.answer w).1 = .ok s ∧ s.coordinator.connect = .ok c ∧
          ∃ q : Query, q.made c = .ok r := by
  intro m
  have hoff := i.prepared_offline env
  have hwithout : i.withoutLook.run env hasColors =
      (i.prepared env >>= fun s => i.command.run (i.session s env hasColors).withoutLook).run :=
    i.withoutLook.run_prepared env hasColors
  have hnone : sent ((i.prepared env).run.transcript m.answer w) = [] := Host.sent_of_only hoff
  rw [i.run_prepared, hwithout]
  cases hprepared : ((i.prepared env).run.run m.answer w).1 with
  | error t =>
    have hend : ∀ f : Settings → Task Unit, (i.prepared env >>= f).run.run m.answer w =
        (.error t, ((i.prepared env).run.run m.answer w).2) := by
      intro f
      rw [Task.run_bind, Plan.run_bind, hprepared]
      rfl
    have hstay : w.on w.network = w := rfl
    refine ⟨[], w.network, .inl ⟨rfl, rfl⟩, ?_⟩
    rw [hstay, (Task.bind_of_error hprepared).2, hnone]
    refine ⟨⟨?_, ?_, ?_, ?_⟩, fun _ _ _ _ => ?_, fun r hr => (List.not_mem_nil hr).elim⟩
    · rw [hend, hend]
    · rw [hend, hend]
      exact ⟨.refl _, rfl, rfl⟩
    · rw [(Task.bind_of_error hprepared).2, (Task.bind_of_error hprepared).2, hnone]
      rfl
    · rw [(Task.bind_of_error hprepared).2, (Task.bind_of_error hprepared).2]
    · rw [hend, hend]
  | ok s =>
    obtain ⟨hhere, hopened⟩ := log_of_prepared scribe exchange clock hlog hprepared
    have hsettings := i.settings_of_prepared hprepared
    have hoffline := m.run_offline hoff w
    generalize hready : ((i.prepared env).run.run m.answer w).2 = ready at hhere hopened hoffline
    have hplaces : ∀ record, s.recordPath env = .ok record →
        ∀ kept ∈ [record, (Store.mk record).draft],
          ready.disk.log.map Files.Sink.place ≠
            some (Files.Path.place ready.disk.tree.here kept) := by
      intro record hrecord kept hkept hplace
      obtain ⟨log, hopen, hplace⟩ := Option.map_eq_some_iff.1 hplace
      obtain ⟨file, hfile, hat⟩ := hopened log hopen
      rw [hat, hhere] at hplace
      exact hapart s hsettings file record hfile hrecord kept hkept hplace
    obtain ⟨manifest, network, hlooked, hrepeats, halike, hasked⟩ := Command.run_withoutLook scribe
      exchange clock (i.session s env hasColors) hlooks ready hplaces
    obtain ⟨hsame, hkept⟩ := hoffline network
    have hprepared' : ((i.prepared env).run.run m.answer (w.on network)).1 = .ok s := by
      rw [hsame]
      exact hprepared
    have hready' : ((i.prepared env).run.run m.answer (w.on network)).2 = ready.on network := by
      rw [hsame]
    rw [hkept] at hlooked
    refine ⟨manifest, network, hlooked.imp_right fun hasked => ⟨s, hsettings, hasked⟩,
      ⟨?_, ?_, ?_, ?_⟩, ?_, ?_⟩
    · rw [(Task.bind_of_ok hprepared).1, (Task.bind_of_ok hprepared').1, hready, hready']
      exact hrepeats.value
    · rw [(Task.bind_of_ok hprepared).1, (Task.bind_of_ok hprepared').1, hready, hready']
      exact hrepeats.after
    · rw [(Task.bind_of_ok hprepared).2, (Task.bind_of_ok hprepared').2, hready, hready',
        m.transcript_offline hoff, Host.sent_append, Host.sent_append, hnone]
      exact hrepeats.sent
    · rw [(Task.bind_of_ok hprepared).2, (Task.bind_of_ok hprepared').2, hready, hready',
        m.transcript_offline hoff, Host.printed_append, Host.printed_append, hrepeats.printed]
    · intro s' record hs' hrecord
      obtain rfl := Except.ok.inj (hsettings.symm.trans hs')
      rw [(Task.bind_of_ok hprepared).1, (Task.bind_of_ok hprepared').1, hready, hready']
      refine halike.tree.read_eq ?_
      rw [halike.here]
      exact hplaces record hrecord record List.mem_cons_self
    · rw [(Task.bind_of_ok hprepared').2, hready', m.transcript_offline hoff, Host.sent_append, hnone]
      intro r hr
      obtain ⟨c, hc, hq⟩ := hasked r hr
      exact ⟨s, c, hsettings, hc, hq⟩

/-- A node is registered or activated with and without the look at releases, by a machine that writes its
events down as it likes, and whose servers do as they like. The run that looks asks for the manifest at most
once, in front of all other requests, and follows its redirects. If the log file is not that of the record
or of its draft, it otherwise comes to the same as the run that does not look, on the network as it is once
the manifest was asked for. -/
theorem Program.look_makes_no_difference {words words' : List String} {env : Environment}
    {i : Invocation} (hread : Invocation.read env words = .ok i)
    (hread' : Invocation.read env words' = .ok i.withoutLook)
    (hlooks : i.command.looksForRelease = true) (isTerminal : Bool)
    {w : Parts.State (Drive τ) ν κ} (hlog : w.disk.log = none)
    (hapart : ∀ s, (i.settings.run.run (Parts.onWeb scribe exchange clock).answer w).1 = .ok s →
      s.LogsApart env w.disk.tree.here (clock w.clock).1) :
    let m := Parts.onWeb scribe exchange clock
    ∃ manifest network,
      (manifest = [] ∧ network = w.network ∨ ∃ s, (i.settings.run.run m.answer w).1 = .ok s ∧
        Release.Asked exchange s.releaseCheck.url manifest w.network network) ∧
      m.Repeats manifest (run words env isTerminal) (run words' env isTerminal) w (w.on network) ∧
      (∀ s record, (i.settings.run.run m.answer w).1 = .ok s → s.recordPath env = .ok record →
        ((run words' env isTerminal).run m.answer (w.on network)).2.disk.tree.read record =
          ((run words env isTerminal).run m.answer w).2.disk.tree.read record) ∧
      ∀ r ∈ sent ((run words' env isTerminal).transcript m.answer (w.on network)), ∃ s c,
        (i.settings.run.run m.answer w).1 = .ok s ∧ s.coordinator.connect = .ok c ∧
          ∃ q : Query, q.made c = .ok r := by
  intro m
  obtain ⟨manifest, network, hlooked, ⟨hvalue, hafter, hsent, hprinted⟩, hrecord, hasked⟩ :=
    i.run_withoutLook scribe exchange clock hlooks env (Output.areColorsWanted env isTerminal) hlog hapart
  obtain ⟨hrun, htranscript⟩ := answered_of_read hread isTerminal m.answer w
  obtain ⟨hrun', htranscript'⟩ := answered_of_read hread' isTerminal m.answer (w.on network)
  refine ⟨manifest, network, hlooked, ⟨?_, ?_, ?_, ?_⟩, ?_, ?_⟩
  · rw [hrun, hrun', hvalue]
  · rw [hrun, hrun']
    exact hafter
  · rw [htranscript, htranscript', hsent]
  · rw [htranscript, htranscript', hprinted]
  · rw [hrun, hrun']
    exact hrecord
  · rw [htranscript']
    exact hasked

end

/-! ## A machine to look from -/

namespace Program

/-- A machine whose servers answer as was written down before, whatever is asked, and note what is asked.
Of the events, it writes the messages of warnings down. -/
def bench : Parts (Drive Unit) (List Http.Outcome × List Http.Request) Instant :=
  Parts.onWeb
    (fun _ e _ => (if e.level = .warn then Text.encodeUtf8 (e.message.toList ++ ['\n']) else [], ()))
    (fun _ r network => (network.1.headD .unreachable, network.1.tail, network.2 ++ [r]))
    fun now => (now, now)

/-- That machine with settings, before the servers were asked anything. -/
def benchWith (settings : String) (script : List Http.Outcome) :
    Parts.State (Drive Unit) (List Http.Outcome × List Http.Request) Instant :=
  ⟨⟨⟨[(["config.json"], .file (Text.encodeUtf8 settings.toList))], []⟩, none, ()⟩, (script, []),
    Host.World.empty.clock⟩

def newNode : Invocation where
  command := .register
  override := ⟨some "http://[::1]", none, some "0x70997970c51812dc3a010c7d01b50e0d17dc79c8"⟩

def newNodeWords : List String :=
  ["register", "--coordinator-url=http://[::1]",
    "--address=0x70997970c51812dc3a010c7d01b50e0d17dc79c8"]

def manifestSettings : String :=
  "\x7b\"version_check\":\x7b\"url\":\"http://[::1]/M\"\x7d\x7d"

/-- A node is registered with the look at releases, and the servers close two connections. -/
theorem register_with_closed_connections :
    (Invocation.read [] newNodeWords = .ok newNode ∧
        Invocation.read [] (newNodeWords ++ ["--skip-version-check"]) = .ok newNode.withoutLook ∧
        newNode.command.looksForRelease = true ∧
        ∀ s, (newNode.settings.run.run bench.answer (benchWith manifestSettings [.closed, .closed])).1 =
          .ok s → s.LogsApart [] [] Host.World.empty.clock) ∧
      ∃ manifest network, manifest.length ≤ 1 ∧
        bench.Repeats manifest (run newNodeWords [] false)
          (run (newNodeWords ++ ["--skip-version-check"]) [] false)
          (benchWith manifestSettings [.closed, .closed])
          ((benchWith manifestSettings [.closed, .closed]).on network) := by
  have hread : Invocation.read [] newNodeWords = .ok newNode := by rfl
  have hread' : Invocation.read [] (newNodeWords ++ ["--skip-version-check"]) =
      .ok newNode.withoutLook := by
    have hsome : (Invocation.read [] (newNodeWords ++ ["--skip-version-check"])).toOption =
        some newNode.withoutLook := by decide +kernel
    cases hwords : Invocation.read [] (newNodeWords ++ ["--skip-version-check"]) with
    | error usage =>
      rw [hwords] at hsome
      cases hsome
    | ok i =>
      rw [hwords] at hsome
      rw [Option.some.inj hsome]
  have hapart : ∀ s, (newNode.settings.run.run bench.answer
      (benchWith manifestSettings [.closed, .closed])).1 = .ok s →
      s.LogsApart [] [] Host.World.empty.clock := by
    -- No log file is named.
    have hnone : ((newNode.settings.run.run bench.answer
        (benchWith manifestSettings [.closed, .closed])).1.toOption.map (·.log.path)) = some none := by
      decide +kernel
    rintro s hs file record ⟨path, directory, hpath, -⟩
    rw [hs] at hnone
    unfold Settings.logPath at hpath
    rw [show s.log.path = none from Option.some.inj hnone] at hpath
    cases hpath
  obtain ⟨manifest, network, hlooked, hrepeats, -⟩ :=
    look_makes_no_difference _ _ _ hread hread' rfl false rfl hapart
  refine ⟨⟨hread, hread', rfl, hapart⟩, manifest, network, ?_, hrepeats⟩
  rcases hlooked with ⟨rfl, -⟩ | ⟨s, -, r, timeout, others, -, rfl, -⟩
  · exact Nat.zero_le 1
  · exact Nat.le_refl 1

/-- Settings by which warnings are written to where the record is kept, and there is no manifest. -/
def oneFileSettings : String :=
  String.join
    ["\x7b\"log\":\x7b\"path\":\"a\",\"file_level\":\"warn\",\"rotation\":\"never\"\x7d,",
      "\"node\":\x7b\"state_path\":\"a\"\x7d,\"version_check\":\x7b\"url\":\"\"\x7d\x7d"]

/-- The look at releases sends two requests if the server of the manifest sends it on; and if events are
written to where the record is kept, what it notes is found there. -/
theorem look_makes_a_difference :
    ((run newNodeWords [] false).run bench.answer (benchWith manifestSettings
          [.answered ⟨302, [("location", "/N")], some []⟩, .closed, .closed])).2.network.2.map (·.url.text) =
        ["http://[::1]/M", "http://[::1]/N",
          "http://[::1]/api/v1/nodes/0x70997970c51812dc3a010c7d01b50e0d17dc79c8"] ∧
      ((run newNodeWords [] false).run bench.answer
          (benchWith oneFileSettings [.closed])).2.disk.tree.entryAt? ["a"] =
        some (.file (Text.encodeUtf8 "Failed to fetch latest node version\n".toList)) ∧
      ((run (newNodeWords ++ ["--skip-version-check"]) [] false).run bench.answer
          (benchWith oneFileSettings [.closed])).2.disk.tree.entryAt? ["a"] =
        some (.file []) :=
  ⟨by decide +kernel, by decide +kernel, by decide +kernel⟩

end Program

end Enrollment
