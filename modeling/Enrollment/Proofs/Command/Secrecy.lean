import Enrollment.Proofs.Command.Influence
import Enrollment.Proofs.Host.Rekeying
import Enrollment.Proofs.Invocation.ApiKey
/-!
# Where the token goes

The token goes from the command line into the requests to the coordinator, and nowhere else. An invocation
with another token is, as a plan, the same invocation with other requests, but for the command that shows
the settings; and that one shows the token masked.

Results:
 1. `Command.run_rekeyed`, `Invocation.run_rekeyed`: a command with another token.
 2. `Command.only_run`: what a command sends, and for what.
 3. `Program.key_reaches_only_the_coordinator`: two runs of the program.
-/

namespace Enrollment

open Client (Connection NamesNoUser Query bearer)
open Host (Parts noted printed sent)
open Invocation (GivesKey keyWord)
open Plan (Only)

variable {α β δ ν κ σ : Type}

/-- What asks for the manifest alone on a host. -/
theorem only_manifest {timeout : Client.Span} {url : String} {p : Plan Client.Wire α}
    (h : Client.SendsOnce timeout (Release.manifestRequest url) p) :
    Only (fun q : Host.Step => ∀ r ∈ q.sent?, Release.manifestRequest url = .ok r) (Host.onWire p) := by
  refine Host.only_onWire ((h.only fun r hr => hr).mono fun q hq r hr => ?_)
  cases q with
  | send made timeout =>
    cases hr
    exact hq
  | _ => cases hr

/-! ## Tasks with another token -/

namespace Task

variable {key key' : String}

theorem rekeyed_bind {x x' : Task α} {f f' : α → Task β}
    (hx : Host.rekeyed key key' x.run = x'.run)
    (hf : ∀ a, Host.rekeyed key key' (f a).run = (f' a).run) :
    Host.rekeyed key key' (x >>= f).run = (x' >>= f').run := by
  rw [run_bind, Host.rekeyed_bind, hx, run_bind]
  refine congrArg _ (funext fun o => ?_)
  cases o with
  | error t => rfl
  | ok a => exact hf a

theorem rekeyed_lift {p p' : Plan Host α} (h : Host.rekeyed key key' p = p') :
    Host.rekeyed key key' (lift p).run = (lift p').run := by
  rw [run_lift, Host.rekeyed_bind, h]
  rfl

theorem rekeyed_attempt {p p' : Plan Host (Except Failure α)} (h : Host.rekeyed key key' p = p') :
    Host.rekeyed key key' (attempt p).run = (attempt p').run := by
  refine rekeyed_bind (rekeyed_lift h) fun o => ?_
  cases o with
  | error f => rfl
  | ok a => rfl

theorem rekeyed_ofExcept (o : Except Trouble α) :
    Host.rekeyed key key' (ofExcept o).run = (ofExcept o).run :=
  Host.rekeyed_of_offline key key' (only_ofExcept o)

end Task

/-! ## Sessions with another token -/

def Session.withKey (s : Session) (key : String) : Session :=
  { s with settings := { s.settings with
      coordinator := { s.settings.coordinator with apiKey := some key } } }

/-- The connection of a session with a token is the connection with that token. -/
theorem Session.connection_withKey (s : Session) (key : String) :
    (s.withKey key).connection = s.connection.map fun c => c.withKey key := by
  have hconnect : (s.withKey key).settings.coordinator.connect =
      s.settings.coordinator.connect.map fun c => c.withKey key := by
    show (Client.checkWebUrl s.settings.coordinator.url >>= _) =
      (Client.checkWebUrl s.settings.coordinator.url >>= _).map _
    cases Client.checkWebUrl s.settings.coordinator.url with
    | error f => rfl
    | ok u => rfl
  have hvalidate : (s.withKey key).settings.validate = s.settings.validate := rfl
  unfold connection
  rw [hconnect, hvalidate]
  cases s.settings.validate with
  | error f => rfl
  | ok _ =>
    cases s.settings.coordinator.connect with
    | error f => rfl
    | ok c => rfl

/-! ## Commands with another token -/

namespace Command

variable {key key' : String}

theorem rekeyed_present (s : Session) (document : Document.Value) (lines : List String) :
    Host.rekeyed key key' (Task.lift (s.present document lines)).run =
      (Task.lift (s.present document lines)).run := by
  rw [Session.present, Output.present_eq]
  rfl

/-- What asks for the manifest alone carries no token. -/
theorem rekeyed_manifest {timeout : Client.Span} {url : String} {p : Plan Client.Wire α}
    (h : Client.SendsOnce timeout (Release.manifestRequest url) p) :
    Host.rekeyed key key' (Host.onWire p) = Host.onWire p :=
  Host.rekeyed_of_keyless key key' ((only_manifest h).mono fun _ hq r hr =>
    Client.rekeyed_of_made (hq r hr) key key')

/-- The look at releases does not carry a token. -/
theorem rekeyed_checkRelease (s : Session) (c : Connection) :
    Host.rekeyed key key' (s.checkRelease c) = s.checkRelease c := by
  unfold Session.checkRelease
  split
  · rfl
  · exact rekeyed_manifest (Release.sendsOnce_warnIfOutdated c _)

/-- Nor does the version. -/
theorem rekeyed_runVersion (s : Session) (compared : Bool) :
    Host.rekeyed key key' (runVersion s compared).run = (runVersion s compared).run := by
  cases compared with
  | false => exact rekeyed_present s _ _
  | true =>
    have hstanding : Host.rekeyed key key' (standing s).run = (standing s).run := by
      unfold standing
      dsimp only
      split
      · rfl
      · exact Task.rekeyed_attempt (rekeyed_manifest (Release.sendsOnce_check _ _))
    exact Task.rekeyed_bind (Task.rekeyed_bind hstanding fun standing => rfl) fun standing =>
      rekeyed_present s _ _

/-- Where the paths are is told without asking the network. -/
theorem only_runShowPaths (s : Session) :
    Only (fun q : Host.Step => q.sent? = none) (runShowPaths s).run := by
  have hpath : ∀ label path, Only (fun q : Host.Step => q.sent? = none) (showPath s label path).run := by
    intro label path
    refine Task.only_bind (Task.only_ofExcept _) fun shown => ?_
    cases shown with
    | none => exact Plan.only_done
    | some text => exact Task.only_lift (Plan.only_request rfl)
  exact Task.only_bind (hpath _ _) fun _ => Task.only_bind (hpath _ _) fun _ => hpath _ _

theorem only_runCheckSettings (s : Session) :
    Only (fun q : Host.Step => q.sent? = none) (runCheckSettings s).run :=
  Task.only_bind (Task.only_ofExcept _) fun _ => Task.only_lift (Plan.only_request rfl)

section

variable (hkey : Http.isHeaderValue key = true) (hkey' : Http.isHeaderValue key' = true)
include hkey hkey'

theorem rekeyed_carryOut (s : Session) (c : Connection) (l : Lifecycle) (command : Command) :
    Host.rekeyed key key' (command.carryOut (s.withKey key) (c.withKey key) l).run =
      (command.carryOut (s.withKey key') (c.withKey key') l).run := by
  have houtcome : ∀ {α : Type} (act : Lifecycle.Act α),
      Host.rekeyed key key' (outcome (c.withKey key) l act) = outcome (c.withKey key') l act :=
    fun act => Host.onLifecycle_rekeyed hkey hkey' c ⟨l.recordPath⟩ act
  cases command with
  | register =>
    exact Task.rekeyed_bind (Task.rekeyed_attempt (houtcome _)) fun o =>
      rekeyed_present (s.withKey key) _ _
  | activate =>
    refine Task.rekeyed_bind (Task.rekeyed_lift (houtcome _)) fun o => ?_
    cases o with
    | error f => rfl
    | ok o => exact rekeyed_present (s.withKey key) _ _
  | deactivate =>
    exact Task.rekeyed_bind (Task.rekeyed_attempt (houtcome _)) fun o =>
      rekeyed_present (s.withKey key) _ _
  | status =>
    exact Task.rekeyed_bind (Task.rekeyed_attempt (houtcome _)) fun o =>
      rekeyed_present (s.withKey key) _ _
  | _ => rfl

/-- A command on the node asks the same with another token, with that one. -/
theorem rekeyed_continueOver (s : Session) (command : Command) (c : Connection) :
    Host.rekeyed key key' (continueOver (s.withKey key) command (c.withKey key)).run =
      (continueOver (s.withKey key') command (c.withKey key')).run := by
  refine Task.rekeyed_bind (Task.rekeyed_lift ?_) fun _ => ?_
  · split
    · exact rekeyed_checkRelease (s.withKey key) (c.withKey key)
    · rfl
  · exact Task.rekeyed_bind (Task.rekeyed_ofExcept _) fun l => rekeyed_carryOut hkey hkey' s c l command

/-- A command that does not show the settings asks the same with another token, with that one. -/
theorem run_rekeyed (s : Session) {command : Command} (hshows : command ≠ .showSettings) :
    Host.rekeyed key key' (run (s.withKey key) command).run = (run (s.withKey key') command).run := by
  have hnode : command.concernsNode = true → Host.rekeyed key key' (run (s.withKey key) command).run =
      (run (s.withKey key') command).run := by
    intro hnode
    rw [run_eq _ hnode, run_eq _ hnode, s.connection_withKey, s.connection_withKey]
    cases s.connection with
    | error t => rfl
    | ok c => exact rekeyed_continueOver hkey hkey' s command c
  cases command with
  | register => exact hnode rfl
  | activate => exact hnode rfl
  | deactivate => exact hnode rfl
  | status => exact hnode rfl
  | version compared => exact rekeyed_runVersion (s.withKey key) compared
  | showSettings => exact absurd rfl hshows
  | showPaths => exact Host.rekeyed_of_offline key key' (only_runShowPaths (s.withKey key))
  | checkSettings => exact Host.rekeyed_of_offline key key' (only_runCheckSettings (s.withKey key))

end

end Command

/-! ## What commands send -/

/-- What is sent is for the manifest of releases, or puts a query to the coordinator. -/
def Settings.Sends (s : Settings) (q : Host.Step) : Prop :=
  ∀ r ∈ q.sent?, Release.manifestRequest s.releaseCheck.url = .ok r ∨
    ∃ c, s.coordinator.connect = .ok c ∧ ∃ query : Query, query.made c = .ok r

theorem Settings.sends_of_silent {s : Settings} {q : Host.Step} (h : q.sent? = none) : s.Sends q := by
  intro r hr
  rw [h] at hr
  cases hr

/-- A command asks for the manifest and the coordinator of its settings. -/
theorem Command.only_run (s : Session) (command : Command) :
    Only s.settings.Sends (run s command).run := by
  have hmanifest : ∀ {α : Type} {p : Plan Client.Wire α} {timeout : Client.Span},
      Client.SendsOnce timeout (Release.manifestRequest s.settings.releaseCheck.url) p →
        Only s.settings.Sends (Host.onWire p) :=
    fun h => (only_manifest h).mono fun _ hq r hr => .inl (hq r hr)
  have hnode : command.concernsNode = true → Only s.settings.Sends (run s command).run := by
    intro hnode
    rw [run_eq s hnode]
    cases hc : s.connection with
    | error t => exact Plan.only_done
    | ok c =>
      refine Task.only_bind (Task.only_lift ?_) fun _ => ?_
      · split
        · unfold Session.checkRelease
          split
          · exact Plan.only_done
          · exact hmanifest (Release.sendsOnce_warnIfOutdated c _)
        · exact Plan.only_done
      · exact (only_behindLook s command c).mono fun _ hq r hr =>
          .inr ⟨c, Session.connect_of_connection hc, hq r hr⟩
  have hsilent : ∀ {x : Task Unit}, Only (fun q : Host.Step => q.sent? = none) x.run →
      Only s.settings.Sends x.run := fun h => h.mono fun _ => Settings.sends_of_silent
  have hpresent : ∀ document lines, Only s.settings.Sends (Task.lift (s.present document lines)).run := by
    intro document lines
    rw [Session.present, Output.present_eq]
    exact hsilent (Task.only_lift (Plan.only_request rfl))
  cases command with
  | register => exact hnode rfl
  | activate => exact hnode rfl
  | deactivate => exact hnode rfl
  | status => exact hnode rfl
  | version compared =>
    cases compared with
    | false => exact hpresent _ _
    | true =>
      have hstanding : Only s.settings.Sends (standing s).run := by
        unfold standing
        dsimp only
        split
        · exact Plan.only_done
        · exact Task.only_attempt (hmanifest (Release.sendsOnce_check _ _))
      exact Task.only_bind (Task.only_bind hstanding fun _ => Plan.only_done) fun _ => hpresent _ _
  | showSettings => exact hpresent _ _
  | showPaths => exact hsilent (only_runShowPaths s)
  | checkSettings => exact hsilent (only_runCheckSettings s)

/-! ## Invocations with another token -/

namespace Invocation

variable {key key' : String}

/-- The session that an invocation comes to, once everything is ready. -/
def opened (i : Invocation) (env : Environment) (hasColors : Bool) : Task Session := do
  let s ← i.loaded
  i.ready env (s.override i.override)
  return i.session (s.override i.override) env hasColors

/-- An invocation opens a session, and does what it is asked for. -/
theorem run_opened (i : Invocation) (env : Environment) (hasColors : Bool) :
    i.run env hasColors = (i.opened env hasColors >>= fun s => i.command.run s).run := by
  rw [run_eq, settings_eq]
  unfold opened
  rw [bind_assoc, bind_assoc]
  refine congrArg (fun f => (i.loaded >>= f).run) (funext fun s => ?_)
  rw [bind_assoc]
  rfl

/-- With a token, an invocation opens the session with that token. -/
theorem run_withKey (i : Invocation) (key : String) (env : Environment) (hasColors : Bool) :
    (i.withKey key).run env hasColors =
      (i.opened env hasColors >>= fun s => i.command.run (s.withKey key)).run := by
  rw [run_opened]
  unfold opened
  rw [bind_assoc, bind_assoc]
  refine congrArg (fun f => (i.loaded >>= f).run) (funext fun s => ?_)
  rw [bind_assoc, bind_assoc]
  rfl

theorem only_opened {P : Host.Step → Prop} (hnow : P .now) (hdisk : ∀ s, P (.disk s)) (i : Invocation)
    (env : Environment) (hasColors : Bool) : Only P (i.opened env hasColors).run := by
  refine Task.only_bind (i.only_loaded fun s _ => hdisk s) fun s => ?_
  exact Task.only_bind (i.only_ready hnow (fun s _ => hdisk s) env _) fun _ => Plan.only_done

theorem opened_offline (i : Invocation) (env : Environment) (hasColors : Bool) :
    Only (fun q : Host.Step => q.sent? = none) (i.opened env hasColors).run :=
  i.only_opened (by rfl) (fun _ => by rfl) env hasColors

/-- An invocation that does not show the settings asks the same with another token, with that one. -/
theorem run_rekeyed (hkey : Http.isHeaderValue key = true) (hkey' : Http.isHeaderValue key' = true)
    (i : Invocation) (hshows : i.command ≠ .showSettings) (env : Environment) (hasColors : Bool) :
    Host.rekeyed key key' ((i.withKey key).run env hasColors) =
      (i.withKey key').run env hasColors := by
  rw [run_withKey, run_withKey]
  refine Task.rekeyed_bind (Host.rekeyed_of_offline key key' (i.opened_offline env hasColors)) ?_
  exact fun s => Command.run_rekeyed hkey hkey' s hshows

end Invocation

/-! ## Settings that are shown -/

/-- A token whose ends are shown: more than eight bytes, each of which is a character. -/
def Settings.ShowsEnds (key : String) : Prop :=
  8 < Text.byteLength key.toList ∧ ∀ c ∈ key.toList, c.toNat < 0x80

/-- Two tokens with the same ends, or two tokens of which nothing is shown. -/
def Settings.LooksLike (key key' : String) : Prop :=
  (ShowsEnds key ∧ ShowsEnds key' ∧ key.toList.take 4 = key'.toList.take 4 ∧
      key.toList.drop (key.toList.length - 4) = key'.toList.drop (key'.toList.length - 4)) ∨
    ¬ShowsEnds key ∧ ¬ShowsEnds key'

/-- What is shown of a token depends on its first four and its last four characters, and on those only if
it is long and has no character of more than one byte. -/
theorem Settings.mask_eq {key key' : String} (h : LooksLike key key') : mask key = mask key' := by
  have hcond : ∀ key : String, ShowsEnds key ↔
      Text.byteLength key.toList > 8 ∧ (key.toList.all fun c => c.toNat < 0x80) = true := by
    intro key
    unfold ShowsEnds
    rw [List.all_eq_true]
    simp only [decide_eq_true_eq]
  unfold mask
  dsimp only
  rcases h with ⟨hlong, hlong', hfirst, hlast⟩ | ⟨hshort, hshort'⟩
  · rw [if_pos ((hcond key).1 hlong), if_pos ((hcond key').1 hlong'), hfirst, hlast]
  · rw [if_neg fun h => hshort ((hcond key).2 h), if_neg fun h => hshort' ((hcond key').2 h)]

/-- What is printed of the settings of a session, with a text for the token. -/
def Session.shownWith (s : Session) (masked : String) : String :=
  (Output.documentText? s.form (Settings.codec.encode (s.withKey masked).settings)).getD
    (String.join ((Command.settingsLines s (s.withKey masked).settings).map (· ++ "\n")))

/-- The settings are shown with the token masked. -/
theorem Session.runShowSettings_withKey (s : Session) (key : String) :
    Command.runShowSettings (s.withKey key) =
      Task.lift (Host.print (s.shownWith (Settings.mask key))) :=
  congrArg Task.lift (Output.present_eq s.form
    (Settings.codec.encode (s.withKey (Settings.mask key)).settings)
    (Command.settingsLines s (s.withKey (Settings.mask key)).settings))

/-! ## What a run sends, and what it prints -/

namespace Invocation

section

variable (answer : (q : Host.Request) → σ → Host.Answer q × σ) (w : σ)

/-- An invocation asks for the manifest and the coordinator of its settings. -/
theorem sends_of_run (i : Invocation) (env : Environment) (hasColors : Bool) :
    ∀ r ∈ sent ((i.run env hasColors).transcript answer w), ∃ s,
      (i.settings.run.run answer w).1 = .ok s ∧
        (Release.manifestRequest s.releaseCheck.url = .ok r ∨
          ∃ c, s.coordinator.connect = .ok c ∧ ∃ query : Query, query.made c = .ok r) := by
  intro r hr
  have hnone : sent ((i.prepared env).run.transcript answer w) = [] :=
    Host.sent_of_only (i.prepared_offline env)
  rw [run_prepared] at hr
  cases hprepared : ((i.prepared env).run.run answer w).1 with
  | error t =>
    rw [(Task.bind_of_error hprepared).2, hnone] at hr
    cases hr
  | ok s =>
    rw [(Task.bind_of_ok hprepared).2, Host.sent_append, hnone, List.nil_append] at hr
    have honly := Command.only_run (i.session s env hasColors) i.command
    exact ⟨s, settings_of_prepared hprepared, Host.mem_sent_of_only honly r hr⟩

/-- The settings of an invocation with a token have that token. -/
theorem apiKey_of_settings {i : Invocation} {key : String} {s : Settings}
    (h : ((i.withKey key).settings.run.run answer w).1 = .ok s) : s.coordinator.apiKey = some key := by
  rw [settings_eq] at h
  cases hloaded : ((i.withKey key).loaded.run.run answer w).1 with
  | error t =>
    rw [(Task.bind_of_error hloaded).1] at h
    cases h
  | ok s₀ =>
    rw [(Task.bind_of_ok hloaded).1] at h
    cases h
    rfl

/-- Where neither the URL of the coordinator nor that of the manifest names a user, a request to the
coordinator carries the token, and one for the manifest carries nothing. -/
theorem authorization_of_run {key : String} (hkey : Http.isHeaderValue key = true) (i : Invocation)
    (env : Environment) (hasColors : Bool) :
    ∀ r ∈ sent (((i.withKey key).run env hasColors).transcript answer w), ∃ s,
      ((i.withKey key).settings.run.run answer w).1 = .ok s ∧
        (NamesNoUser s.coordinator.url → NamesNoUser s.releaseCheck.url →
          (Release.manifestRequest s.releaseCheck.url = .ok r ∧ r.authorization = none) ∨
            ∃ c, s.coordinator.connect = .ok c ∧ (∃ query : Query, query.made c = .ok r) ∧
              r.authorization = some (bearer key)) := by
  intro r hr
  obtain ⟨s, hs, hsends⟩ := sends_of_run answer w (i.withKey key) env hasColors r hr
  refine ⟨s, hs, fun huser huser' => ?_⟩
  rcases hsends with hmade | ⟨c, hc, query, hmade⟩
  · have hnone : Client.IsLegalKey none := rfl
    exact .inl ⟨hmade, Client.authorization_of_made hnone huser' hmade⟩
  · have hapiKey := apiKey_of_settings answer w hs
    have hc' := hc
    rw [Settings.Coordinator.connect, hapiKey] at hc'
    exact .inr ⟨c, hc, ⟨query, hmade⟩,
      query.authorization_of_made hc' huser (Client.isLegalKey_some hkey) hmade⟩

end

/-- The settings are shown alike with every token, but for the masked token. -/
theorem run_showSettings {i : Invocation} (hshows : i.command = .showSettings) (env : Environment)
    (hasColors : Bool) (m : Parts δ ν κ) (w : Parts.State δ ν κ) :
    ∃ o w' events, ∃ shown : String → List String,
      (shown = (fun _ => []) ∨ ∃ s : Session, shown = fun masked => [s.shownWith masked]) ∧
        ∀ key, ((i.withKey key).run env hasColors).run m.answer w = (o, w') ∧
          noted (((i.withKey key).run env hasColors).transcript m.answer w) = events ∧
          sent (((i.withKey key).run env hasColors).transcript m.answer w) = [] ∧
          printed (((i.withKey key).run env hasColors).transcript m.answer w) =
            shown (Settings.mask key) := by
  have hsent : sent ((i.opened env hasColors).run.transcript m.answer w) = [] :=
    Host.sent_of_only (i.opened_offline env hasColors)
  have hprinted : printed ((i.opened env hasColors).run.transcript m.answer w) = [] :=
    Host.printed_of_only (i.only_opened (by rfl) (fun _ => by rfl) env hasColors)
  have hshow : ∀ (s : Session) (key : String) (w : Parts.State δ ν κ),
      (Command.run (s.withKey key) .showSettings).run.run m.answer w = (.ok (), w) ∧
        noted ((Command.run (s.withKey key) .showSettings).run.transcript m.answer w) = [] ∧
        sent ((Command.run (s.withKey key) .showSettings).run.transcript m.answer w) = [] ∧
        printed ((Command.run (s.withKey key) .showSettings).run.transcript m.answer w) =
          [s.shownWith (Settings.mask key)] := by
    intro s key w
    rw [Command.run, s.runShowSettings_withKey]
    exact ⟨rfl, rfl, rfl, rfl⟩
  cases hopened : ((i.opened env hasColors).run.run m.answer w).1 with
  | error t =>
    refine ⟨.error t, ((i.opened env hasColors).run.run m.answer w).2,
      noted ((i.opened env hasColors).run.transcript m.answer w), fun _ => [], .inl rfl, fun key => ?_⟩
    rw [run_withKey, (Task.bind_of_error hopened).2, Task.run_bind, Plan.run_bind, hopened]
    exact ⟨rfl, rfl, hsent, hprinted⟩
  | ok s =>
    refine ⟨.ok (), ((i.opened env hasColors).run.run m.answer w).2,
      noted ((i.opened env hasColors).run.transcript m.answer w), fun masked => [s.shownWith masked],
      .inr ⟨s, rfl⟩, fun key => ?_⟩
    obtain ⟨hrun, hnoted, hsent', hprinted'⟩ :=
      hshow s key ((i.opened env hasColors).run.run m.answer w).2
    rw [run_withKey, hshows, (Task.bind_of_ok hopened).1, (Task.bind_of_ok hopened).2,
      Host.noted_append, Host.sent_append, Host.printed_append, hsent, hprinted, hrun, hnoted, hsent',
      hprinted']
    exact ⟨rfl, List.append_nil _, rfl, rfl⟩

end Invocation

/-! ## Two runs of the program -/

/-- A request but for what proves that it may be made. -/
def Http.Request.unproved (r : Http.Request) : Http.Request :=
  { r with authorization := none }

theorem unproved_rekeyed (key key' : String) (requests : List Http.Request) :
    (requests.map (Client.rekeyed key key')).map (·.unproved) = requests.map (·.unproved) := by
  rw [List.map_map]
  refine List.map_congr_left fun r _ => ?_
  show (Client.rekeyed key key' r).unproved = r.unproved
  unfold Client.rekeyed
  split
  · rfl
  · rfl

namespace Program

/-- The words of a command line with a token. -/
def wordsWith (before after : List String) (key : String) : List String :=
  before ++ keyWord key :: after

/-- In a run, where neither the URL of the coordinator nor that of the manifest names a user, every
request to the coordinator carries a token, and every one for the manifest carries nothing. -/
def Carries (words : List String) (env : Environment) (isTerminal : Bool) (m : Parts δ ν κ)
    (w : Parts.State δ ν κ) (key : String) : Prop :=
  ∀ r ∈ sent ((run words env isTerminal).transcript m.answer w), ∃ i s,
    Invocation.read env words = .ok i ∧ (i.settings.run.run m.answer w).1 = .ok s ∧
      (NamesNoUser s.coordinator.url → NamesNoUser s.releaseCheck.url →
        (Release.manifestRequest s.releaseCheck.url = .ok r ∧ r.authorization = none) ∨
          ∃ c, s.coordinator.connect = .ok c ∧ (∃ query : Query, query.made c = .ok r) ∧
            r.authorization = some (bearer key))

variable {m : Parts δ ν κ} {w : Parts.State δ ν κ} {words words' : List String} {env : Environment}

/-- The two runs of an invocation that does not show the settings. -/
theorem run_withKey {i : Invocation} {key key' : String}
    (hread : Invocation.read env words = .ok (i.withKey key))
    (hread' : Invocation.read env words' = .ok (i.withKey key')) (hm : m.IgnoresTokens)
    (hkey : Http.isHeaderValue key = true) (hkey' : Http.isHeaderValue key' = true)
    (hshows : i.command ≠ .showSettings) (isTerminal : Bool) :
    (run words' env isTerminal).run m.answer w = (run words env isTerminal).run m.answer w ∧
      (run words' env isTerminal).transcript m.answer w =
        ((run words env isTerminal).transcript m.answer w).map (Host.rekeyedExchange key key') := by
  have hplan := i.run_rekeyed hkey hkey' hshows env (Output.areColorsWanted env isTerminal)
  rw [(answered_of_read hread isTerminal m.answer w).1, (answered_of_read hread isTerminal m.answer w).2,
    (answered_of_read hread' isTerminal m.answer w).1,
    (answered_of_read hread' isTerminal m.answer w).2, ← hplan, Parts.run_rekeyed key key' hm,
    Parts.transcript_rekeyed key key' hm]
  exact ⟨rfl, rfl⟩

theorem carries_of_read {i : Invocation} {key : String} (hkey : Http.isHeaderValue key = true)
    (hread : Invocation.read env words = .ok (i.withKey key)) (isTerminal : Bool) :
    Carries words env isTerminal m w key := by
  intro r hr
  rw [(answered_of_read hread isTerminal m.answer w).2] at hr
  obtain ⟨s, hs, hcarries⟩ := i.authorization_of_run m.answer w hkey env _ r hr
  exact ⟨i.withKey key, s, hread, hs, hcarries⟩

/-- Nothing is sent to say how to use the program. -/
theorem sent_explain (usage : Invocation.Usage)
    (answer : (q : Host.Request) → σ → Host.Answer q × σ) (w : σ) :
    sent ((explain usage).transcript answer w) = [] := by
  refine Host.sent_of_only ?_
  unfold explain
  split
  · exact Only.bind (Plan.only_request (by rfl)) fun _ => Plan.only_done
  · exact Plan.only_done

/-- The runs that show the settings differ in the masked token alone. -/
theorem run_showSettings {before after : List String} {i : Invocation}
    (hread : ∀ key, Invocation.read env (wordsWith before after key) = .ok (i.withKey key))
    (hshows : i.command = .showSettings) (isTerminal : Bool) (m : Parts δ ν κ)
    (w : Parts.State δ ν κ) :
    ∃ ending w' events, ∃ shown : String → List String,
      (shown = (fun _ => []) ∨ ∃ s : Session, shown = fun masked => [s.shownWith masked]) ∧
        ∀ key, (run (wordsWith before after key) env isTerminal).run m.answer w = (ending, w') ∧
          noted ((run (wordsWith before after key) env isTerminal).transcript m.answer w) = events ∧
          sent ((run (wordsWith before after key) env isTerminal).transcript m.answer w) = [] ∧
          printed ((run (wordsWith before after key) env isTerminal).transcript m.answer w) =
            shown (Settings.mask key) := by
  obtain ⟨o, w', events, shown, hshown, hall⟩ := Invocation.run_showSettings hshows env
    (Output.areColorsWanted env isTerminal) m w
  refine ⟨endingOf o, w', events, shown, hshown, fun key => ?_⟩
  rw [(answered_of_read (hread key) isTerminal m.answer w).1,
    (answered_of_read (hread key) isTerminal m.answer w).2, (hall key).1]
  exact ⟨rfl, (hall key).2⟩

/-- Two runs that differ in the token on the command line end alike, on the same disk, and note the same.
They send the same requests but for what proves that these may be made; and unless another token is given
behind the one, that is the token in every request to the coordinator, and nothing in a request for the
manifest. They print the same, unless the settings are shown, and then the same but for the masked
token. -/
theorem key_reaches_only_the_coordinator (before after : List String) (env : Environment)
    (isTerminal : Bool) (hm : m.IgnoresTokens) (w : Parts.State δ ν κ) {key key' : String}
    (hkey : Http.isHeaderValue key = true) (hkey' : Http.isHeaderValue key' = true) :
    let p := run (wordsWith before after key) env isTerminal
    let p' := run (wordsWith before after key') env isTerminal
    p'.run m.answer w = p.run m.answer w ∧
      noted (p'.transcript m.answer w) = noted (p.transcript m.answer w) ∧
      (sent (p'.transcript m.answer w)).map (·.unproved) =
        (sent (p.transcript m.answer w)).map (·.unproved) ∧
      ((∀ word ∈ after, ¬GivesKey word) →
        sent (p'.transcript m.answer w) =
            (sent (p.transcript m.answer w)).map (Client.rekeyed key key') ∧
          Carries (wordsWith before after key) env isTerminal m w key ∧
          Carries (wordsWith before after key') env isTerminal m w key') ∧
      (printed (p'.transcript m.answer w) = printed (p.transcript m.answer w) ∨
        (∃ i, Invocation.read env (wordsWith before after key) = .ok i ∧ i.command = .showSettings) ∧
          ∃ s : Session, printed (p.transcript m.answer w) = [s.shownWith (Settings.mask key)] ∧
            printed (p'.transcript m.answer w) = [s.shownWith (Settings.mask key')]) ∧
      (Settings.LooksLike key key' → Settings.mask key = Settings.mask key') := by
  dsimp only
  have hmask : Settings.LooksLike key key' → Settings.mask key = Settings.mask key' :=
    Settings.mask_eq
  rcases Invocation.read_key env before after with ⟨usage, husage⟩ | ⟨i, hi⟩ | ⟨⟨word, hword, hgives⟩, i, hi⟩
  · -- Nothing but words on how to use the program.
    have hrun := fun key => run_of_usage (husage key) isTerminal
    have hsent := sent_explain usage m.answer w
    have hcarries : ∀ key, Carries (wordsWith before after key) env isTerminal m w key := by
      intro key r hr
      rw [wordsWith, hrun, hsent] at hr
      cases hr
    rw [wordsWith, wordsWith, hrun, hrun, hsent]
    exact ⟨rfl, rfl, rfl, fun _ => ⟨rfl, hcarries key, hcarries key'⟩, .inl rfl, hmask⟩
  · by_cases hshows : i.command = .showSettings
    · obtain ⟨ending, w', events, shown, hshown, hruns⟩ := run_showSettings hi hshows isTerminal m w
      obtain ⟨hrun, hnoted, hsent, hprinted⟩ := hruns key
      obtain ⟨hrun', hnoted', hsent', hprinted'⟩ := hruns key'
      refine ⟨hrun'.trans hrun.symm, hnoted'.trans hnoted.symm, ?_, fun _ => ⟨?_,
        carries_of_read hkey (hi key) isTerminal, carries_of_read hkey' (hi key') isTerminal⟩, ?_, hmask⟩
      · rw [hsent, hsent']
      · rw [hsent, hsent']
        rfl
      · rw [hprinted, hprinted']
        rcases hshown with rfl | ⟨s, rfl⟩
        · exact .inl rfl
        · exact .inr ⟨⟨_, hi key, hshows⟩, s, rfl, rfl⟩
    · obtain ⟨hrun, htranscript⟩ := run_withKey (hi key) (hi key') hm hkey hkey' hshows isTerminal
      rw [wordsWith, wordsWith, hrun, htranscript, Host.noted_rekeyed, Host.sent_rekeyed,
        Host.printed_rekeyed, unproved_rekeyed]
      exact ⟨rfl, rfl, rfl, fun _ => ⟨rfl, carries_of_read hkey (hi key) isTerminal,
        carries_of_read hkey' (hi key') isTerminal⟩, .inl rfl, hmask⟩
  · have hsame : run (wordsWith before after key') env isTerminal =
        run (wordsWith before after key) env isTerminal := by
      unfold run wordsWith
      rw [hi key, hi key']
    rw [hsame]
    exact ⟨rfl, rfl, rfl, fun hnone => absurd hgives (hnone word hword), .inl rfl, hmask⟩

def statusWords (key : String) : List String :=
  wordsWith ["status", "--coordinator-url=http://[::1]:8080",
    "--address=0x70997970c51812dc3a010c7d01b50e0d17dc79c8"] [] key

/-- A node is reported on with two tokens, and the coordinator closes the connection. -/
theorem status_with_two_keys :
    let w : Parts.State Files.Tree (List Http.Outcome) Instant :=
      ⟨⟨[], []⟩, [.closed], Host.World.empty.clock⟩
    let t (key : String) := (run (statusWords key) [] false).transcript Parts.scripted.answer w
    (Parts.scripted.IgnoresTokens ∧ Http.isHeaderValue "first" = true ∧
        Http.isHeaderValue "second" = true) ∧
      (sent (t "first")).map (·.authorization) = [some (bearer "first")] ∧
      sent (t "second") = (sent (t "first")).map (Client.rekeyed "first" "second") ∧
      (run (statusWords "second") [] false).run Parts.scripted.answer w =
        (run (statusWords "first") [] false).run Parts.scripted.answer w := by
  dsimp only
  have hm : Parts.scripted.IgnoresTokens := fun _ _ _ _ => rfl
  have hfirst : Http.isHeaderValue "first" = true := by decide
  have hsecond : Http.isHeaderValue "second" = true := by decide
  obtain ⟨hrun, -, -, hsent, -⟩ := key_reaches_only_the_coordinator
    ["status", "--coordinator-url=http://[::1]:8080",
      "--address=0x70997970c51812dc3a010c7d01b50e0d17dc79c8"] [] [] false hm
    ⟨⟨[], []⟩, [.closed], Host.World.empty.clock⟩ hfirst hsecond
  refine ⟨⟨hm, hfirst, hsecond⟩, by decide +kernel, ?_, hrun⟩
  exact (hsent fun _ h => by cases h).1

end Program

end Enrollment
