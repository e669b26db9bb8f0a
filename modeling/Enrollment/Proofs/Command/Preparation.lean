import Enrollment.Program
import Enrollment.Proofs.Host.History
/-!
# What comes before a command

An invocation loads its settings, gets ready to log, and then does what it is asked for. Nothing of
that is sent anywhere, and the disk is changed only where the log file is opened. Settings that cannot
be used, and settings that cannot be loaded, end a command on the node right there.

Results:
 1. `Invocation.run_eq`: the three parts of an invocation.
 2. `Invocation.changes_ready`: what getting ready changes on the disk.
 3. `Command.run_of_no_connection`: a command on the node does nothing with settings that cannot be used.
 4. `Program.fails_before_any_effect`: what is left of a whole run then.
-/

namespace Enrollment

open Files (Disk)
open Host (sent changes)
open Plan (Only Course)

variable {α β σ : Type}

/-! ## Tasks -/

namespace Task

theorem run_bind (x : Task α) (f : α → Task β) :
    (x >>= f).run = x.run.bind (ExceptT.bindCont f) := rfl

theorem run_lift (p : Plan Host α) : (lift p).run = p.bind fun a => .done (.ok a) := rfl

theorem only_bind {P : Host.Step → Prop} {x : Task α} (hx : Only P x.run) {f : α → Task β}
    (hf : ∀ a, Only P (f a).run) : Only P (x >>= f).run := by
  refine Only.bind hx fun o => ?_
  cases o with
  | ok a => exact hf a
  | error t => exact Plan.only_done

theorem only_lift {P : Host.Step → Prop} {p : Plan Host α} (hp : Only P p) : Only P (lift p).run :=
  Only.bind hp fun _ => Plan.only_done

theorem only_ofExcept {P : Host.Step → Prop} (o : Except Trouble α) : Only P (ofExcept o).run := by
  cases o with
  | ok a => exact Plan.only_done
  | error t => exact Plan.only_done

section

variable {answer : (s : Host.Request) → σ → Host.Answer s × σ} {w : σ} {x : Task α} {f : α → Task β}

/-- Trouble in the first part of a task ends it. -/
theorem bind_of_error {t : Trouble} (h : (x.run.run answer w).1 = .error t) :
    ((x >>= f).run.run answer w).1 = .error t ∧
      (x >>= f).run.transcript answer w = x.run.transcript answer w := by
  rw [run_bind, Plan.run_bind, Plan.transcript_bind, h]
  exact ⟨rfl, List.append_nil _⟩

/-- A task goes on with the value of its first part. -/
theorem bind_of_ok {a : α} (h : (x.run.run answer w).1 = .ok a) :
    (x >>= f).run.run answer w = (f a).run.run answer (x.run.run answer w).2 ∧
      (x >>= f).run.transcript answer w =
        x.run.transcript answer w ++ (f a).run.transcript answer (x.run.run answer w).2 := by
  rw [run_bind, Plan.run_bind, Plan.transcript_bind, h]
  exact ⟨rfl, rfl⟩

/-- A task that can only end in trouble asks what its first part asks. -/
theorem bind_of_trouble (x : Task α) {t : Trouble} (hf : ∀ a, (f a).run = .done (.error t))
    (answer : (s : Host.Request) → σ → Host.Answer s × σ) (w : σ) :
    (∃ t', ((x >>= f).run.run answer w).1 = .error t') ∧
      (x >>= f).run.transcript answer w = x.run.transcript answer w := by
  cases h : (x.run.run answer w).1 with
  | error t' => exact ⟨⟨t', (bind_of_error h).1⟩, (bind_of_error h).2⟩
  | ok a =>
    rw [(bind_of_ok h).1, (bind_of_ok h).2, hf a]
    exact ⟨⟨t, rfl⟩, List.append_nil _⟩

end

theorem only_attempt {P : Host.Step → Prop} {p : Plan Host (Except Failure α)} (hp : Only P p) :
    Only P (attempt p).run := by
  refine only_bind (only_lift hp) fun o => ?_
  cases o with
  | ok a => exact Plan.only_done
  | error f => exact Plan.only_done

/-- What is behind an attempt goes by what comes of it. -/
theorem run_attempt_bind (p : Plan Host (Except Failure α)) (f : α → Task β) :
    (attempt p >>= f).run = p.bind fun o => (ofExcept (o.mapError Failure.toTrouble) >>= f).run := by
  unfold attempt
  rw [bind_assoc, run_bind, run_lift, Plan.bind_assoc]
  congr 1
  funext o
  cases o with
  | ok a => rfl
  | error failure => rfl

end Task

/-- A result is printed as one text. -/
theorem Output.present_eq (form : Form) (document : Document.Value) (lines : List String) :
    present form document lines =
      Host.print ((documentText? form document).getD (String.join (lines.map (· ++ "\n")))) := by
  unfold present
  cases documentText? form document with
  | some text => rfl
  | none => rfl

/-! ## The parts of an invocation -/

namespace Invocation

def loaded (i : Invocation) : Task Settings := do
  match ← Task.lift (Host.onDisk (loadSettings i.settingsPath)) with
  | .error f => throw (f.toTrouble.within ("Failed to load config from " ++ i.settingsPath))
  | .ok s => return s

def ready (i : Invocation) (env : Environment) (s : Settings) : Task Unit := do
  let logPath ← Task.ofExcept ((s.logPath env).mapError Failure.toTrouble)
  ExceptT.mk (i.logging env s.log logPath)

theorem settings_eq (i : Invocation) :
    i.settings = i.loaded >>= fun s => pure (s.override i.override) := by
  unfold settings loaded
  rw [bind_assoc]
  congr 1
  funext read
  cases read with
  | error f => rfl
  | ok s => rfl

/-- The settings in force, once everything is ready to log. -/
def prepared (i : Invocation) (env : Environment) : Task Settings := do
  let s ← i.settings
  i.ready env s
  return s

/-- An invocation loads its settings, gets ready to log, and does what it is asked for. -/
theorem run_eq (i : Invocation) (env : Environment) (hasColors : Bool) :
    i.run env hasColors =
      (i.settings >>= fun s => i.ready env s >>= fun _ =>
        i.command.run (i.session s env hasColors)).run := by
  unfold run perform ready
  congr 2
  funext s
  rw [bind_assoc]

/-- An invocation gets everything ready, and does what it is asked for. -/
theorem run_prepared (i : Invocation) (env : Environment) (hasColors : Bool) :
    i.run env hasColors =
      (i.prepared env >>= fun s => i.command.run (i.session s env hasColors)).run := by
  rw [run_eq]
  unfold prepared
  rw [bind_assoc]
  congr 2
  funext s
  rw [bind_assoc]
  rfl

theorem settings_of_prepared {i : Invocation} {env : Environment}
    {answer : (s : Host.Request) → σ → Host.Answer s × σ} {w : σ} {s : Settings}
    (h : ((i.prepared env).run.run answer w).1 = .ok s) :
    (i.settings.run.run answer w).1 = .ok s := by
  unfold prepared at h
  cases hsettings : (i.settings.run.run answer w).1 with
  | error t =>
    rw [(Task.bind_of_error hsettings).1] at h
    cases h
  | ok s' =>
    rw [(Task.bind_of_ok hsettings).1] at h
    cases hready : ((i.ready env s').run.run answer (i.settings.run.run answer w).2).1 with
    | error t =>
      rw [(Task.bind_of_error hready).1] at h
      cases h
    | ok _ =>
      rw [(Task.bind_of_ok hready).1] at h
      exact h

/-! ## What loading and getting ready do -/

theorem only_load (path : String) : Only (fun s : Files.Step => s.changes = false) (Settings.load path) := by
  refine Only.bind (Only.bind (Plan.only_request (by rfl)) fun read => ?_) fun read => Plan.only_done
  cases read with
  | error fault => exact Plan.only_done
  | ok bytes =>
    dsimp only
    split
    · exact Plan.only_done
    · exact Plan.only_done

theorem only_loadSettings (path : String) :
    Only (fun s : Files.Step => s.changes = false) (loadSettings path) := by
  unfold loadSettings
  split
  · refine Only.bind (Plan.only_request (by rfl)) fun there => ?_
    cases there with
    | true => exact only_load path
    | false => exact Only.bind (Plan.only_request (by rfl)) fun _ => Plan.only_done
  · exact only_load path

/-- Settings are loaded by looking at the disk. -/
theorem only_loaded {P : Host.Step → Prop} (h : ∀ s : Files.Step, s.changes = false → P (.disk s))
    (i : Invocation) : Only P i.loaded.run := by
  refine Task.only_bind (Task.only_lift (Host.only_onDisk ?_)) fun read => ?_
  · exact (only_loadSettings _).mono h
  · cases read with
    | error f => exact Plan.only_done
    | ok s => exact Plan.only_done

theorem only_settings {P : Host.Step → Prop} (h : ∀ s : Files.Step, s.changes = false → P (.disk s))
    (i : Invocation) : Only P i.settings.run := by
  rw [settings_eq]
  exact Task.only_bind (i.only_loaded h) fun s => Plan.only_done

theorem only_openFile (path filter : String) :
    Only (fun s : Files.Step => s.changes = true) (Log.openFile path filter) := by
  refine Only.bind (Plan.only_request (by rfl)) fun opened => ?_
  cases opened with
  | ok _ => exact Plan.only_done
  | error _ =>
    refine Only.bind (Plan.only_request (by rfl)) fun made => ?_
    cases made with
    | error fault => exact Plan.only_done
    | ok _ => exact Only.bind (Plan.only_request (by rfl)) fun _ => Plan.only_done

theorem only_openLogFile (s : Settings.Log) (path : String) (now : Instant) :
    Only (fun s : Files.Step => s.changes = true) (Log.openLogFile s path now) := by
  unfold Log.openLogFile
  split
  · exact Plan.only_done
  · refine Only.bind (Plan.only_request (by rfl)) fun made => ?_
    cases made with
    | error fault => exact Plan.only_done
    | ok _ => exact Only.bind (only_openFile _ _) fun _ => Plan.only_done

/-- Logging is set up without a question, or by opening the log file at the present instant. -/
theorem setUp_cases (s : Settings.Log) (env : Environment) (file : Option String) (verbose : Bool) :
    (∃ o, Log.setUp s env file verbose = .done o) ∨
      ∃ path, file = some path ∧ Log.setUp s env file verbose =
        Host.now.bind fun now => Host.onDisk (Log.openLogFile s path now) := by
  unfold Log.setUp
  split
  · exact .inl ⟨_, rfl⟩
  · exact .inl ⟨_, rfl⟩
  · next path _ =>
    split
    · exact .inl ⟨_, rfl⟩
    · exact .inr ⟨path, rfl, rfl⟩

/-- Getting ready asks nothing, or opens the log file that the settings name. -/
theorem ready_cases (i : Invocation) (env : Environment) (s : Settings) :
    (∃ o, (i.ready env s).run = .done o) ∨
      ∃ path, s.logPath env = .ok (some path) ∧ (i.ready env s).run =
        Host.now.bind fun now => Host.onDisk (Log.openLogFile s.log path now) := by
  unfold ready logging
  cases s.logPath env with
  | error f => exact .inl ⟨_, rfl⟩
  | ok file =>
    rcases setUp_cases s.log env file i.isVerbose with ⟨o, h⟩ | ⟨path, rfl, h⟩
    · exact .inl ⟨o, h⟩
    · exact .inr ⟨path, rfl, h⟩

/-- Getting ready asks the clock and the disk. -/
theorem only_ready {P : Host.Step → Prop} (hnow : P .now) (h : ∀ s : Files.Step, s.changes = true → P (.disk s))
    (i : Invocation) (env : Environment) (s : Settings) : Only P (i.ready env s).run := by
  rcases i.ready_cases env s with ⟨o, ho⟩ | ⟨path, -, ho⟩
  · rw [ho]
    exact Plan.only_done
  · rw [ho]
    exact Only.bind (Plan.only_request hnow) fun now =>
      Host.only_onDisk ((only_openLogFile _ _ _).mono h)

/-- Until everything is ready, nothing is sent. -/
theorem prepared_offline (i : Invocation) (env : Environment) :
    Only (fun q : Host.Step => q.sent? = none) (i.prepared env).run := by
  refine Task.only_bind (i.only_settings fun _ _ => by rfl) fun s => ?_
  exact Task.only_bind (i.only_ready (by rfl) (fun _ _ => by rfl) env s) fun _ => Plan.only_done

variable (answer : (s : Host.Request) → σ → Host.Answer s × σ)

/-- Getting ready changes nothing on the disk, or what opening the log file changes. -/
theorem changes_ready (i : Invocation) (env : Environment) (s : Settings) (w : σ) :
    changes ((i.ready env s).run.transcript answer w) = [] ∨
      ∃ path now opened, s.logPath env = .ok (some path) ∧
        Course (Log.openLogFile s.log path now)
          (changes ((i.ready env s).run.transcript answer w)) opened := by
  rcases i.ready_cases env s with ⟨o, ho⟩ | ⟨path, hpath, ho⟩
  · rw [ho]
    exact .inl rfl
  · rw [ho]
    have hchanges : changes ((Host.now.bind fun now =>
        Host.onDisk (Log.openLogFile s.log path now)).transcript answer w) =
        (Log.openLogFile s.log path (answer .now w).1).transcript
          (fun s w => answer (.disk s) w) (answer .now w).2 :=
      Host.changes_onDisk answer (only_openLogFile _ _ _) _
    rw [hchanges]
    exact .inr ⟨path, _, _, hpath, Plan.course_transcript _ _ _⟩

end Invocation

/-! ## Commands on the node -/

namespace Command

/-- Whether a command is about the node at its coordinator. -/
def concernsNode : Command → Bool
  | register => true
  | activate => true
  | deactivate => true
  | status => true
  | _ => false

def looksForRelease : Command → Bool
  | register => true
  | activate => true
  | _ => false

theorem concernsNode_of_looksForRelease {command : Command} (h : command.looksForRelease = true) :
    command.concernsNode = true := by
  cases command with
  | register => rfl
  | activate => rfl
  | _ => cases h

/-- What a command on the node does once the life of the node is at hand. -/
def carryOut (s : Session) (c : Client.Connection) (l : Lifecycle) : Command → Task Unit
  | register => do
    let o ← Task.attempt (outcome c l l.register)
    Task.lift (s.present o.encode (registerLines s o))
  | activate => do
    match ← Task.lift (outcome c l l.activate) with
    | .error f => throw (activationTrouble f)
    | .ok o => Task.lift (s.present o.encode (activateLines s o))
  | deactivate => do
    let o ← Task.attempt (outcome c l l.deactivate)
    Task.lift (s.present o.encode (deactivateLines s l o))
  | status => do
    let r ← Task.attempt (outcome c l l.status)
    Task.lift (s.present r.encode (statusLines s l r))
  | _ => return ()

/-- What a command on the node does over a connection, behind the look at releases. -/
def behindLook (s : Session) (command : Command) (c : Client.Connection) : Task Unit := do
  command.carryOut s c (← Task.ofExcept (s.lifecycle c))

def continueOver (s : Session) (command : Command) (c : Client.Connection) : Task Unit := do
  Task.lift (if command.looksForRelease then s.checkRelease c else return ())
  behindLook s command c

theorem start_bind (s : Session) (looks : Bool) (f : Client.Connection × Lifecycle → Task β) :
    start s looks >>= f = Task.ofExcept s.connection >>= fun c =>
      Task.lift (if looks then s.checkRelease c else pure ()) >>= fun _ =>
        Task.ofExcept (s.lifecycle c) >>= fun l => f (c, l) := by
  have hrest : ∀ c, (Task.ofExcept (s.lifecycle c) >>= fun l => pure (c, l)) >>= f =
      Task.ofExcept (s.lifecycle c) >>= fun l => f (c, l) := by
    intro c
    rw [bind_assoc]
    congr 1
  unfold start
  rw [bind_assoc]
  congr 1
  funext c
  cases looks with
  | false => exact hrest c
  | true =>
    dsimp only
    rw [if_pos rfl, bind_assoc]
    exact congrArg _ (funext fun _ => hrest c)

/-- A command on the node needs a connection first. -/
theorem run_eq (s : Session) {command : Command} (h : command.concernsNode = true) :
    run s command = Task.ofExcept s.connection >>= continueOver s command := by
  cases command with
  | register => exact start_bind s true _
  | activate => exact start_bind s true _
  | deactivate => exact start_bind s false _
  | status => exact start_bind s false _
  | _ => cases h

end Command

theorem Session.connection_of_invalid {s : Session} {f : Failure}
    (h : s.settings.validate = .error f) :
    s.connection =
      .error (f.toTrouble.within ("Invalid configuration (" ++ s.settingsPath ++ ")")) := by
  unfold connection
  rw [h]

/-- A command on the node does nothing without a connection. -/
theorem Command.run_of_no_connection {s : Session} {t : Trouble} (h : s.connection = .error t)
    {command : Command} (hcommand : command.concernsNode = true) :
    (run s command).run = .done (.error t) := by
  rw [run_eq s hcommand, h]
  rfl

/-! ## Whole runs -/

namespace Program

theorem run_of_read {words : List String} {env : Environment} {i : Invocation}
    (h : Invocation.read env words = .ok i) (isTerminal : Bool) :
    run words env isTerminal = (i.run env (Output.areColorsWanted env isTerminal)).bind fun o =>
      .done (endingOf o) := by
  unfold run
  rw [h]
  rfl

/-- The program runs as the invocation does that it read. -/
theorem answered_of_read {words : List String} {env : Environment} {i : Invocation}
    (h : Invocation.read env words = .ok i) (isTerminal : Bool)
    (answer : (s : Host.Request) → σ → Host.Answer s × σ) (w : σ) :
    (run words env isTerminal).run answer w =
        (endingOf ((i.run env (Output.areColorsWanted env isTerminal)).run answer w).1,
          ((i.run env (Output.areColorsWanted env isTerminal)).run answer w).2) ∧
      (run words env isTerminal).transcript answer w =
        (i.run env (Output.areColorsWanted env isTerminal)).transcript answer w := by
  rw [run_of_read h, Plan.run_bind, Plan.transcript_bind]
  exact ⟨rfl, List.append_nil _⟩

/-- A command on the node whose settings cannot be loaded, or cannot be used, fails; nothing is sent,
and the disk is changed at most by opening the log file. -/
theorem fails_before_any_effect {words : List String} {env : Environment} {i : Invocation}
    (hread : Invocation.read env words = .ok i) (hcommand : i.command.concernsNode = true)
    {answer : (s : Host.Request) → σ → Host.Answer s × σ} {w : σ}
    (hsettings : (∃ t, (i.settings.run.run answer w).1 = .error t) ∨
      ∃ s f, (i.settings.run.run answer w).1 = .ok s ∧ s.validate = .error f)
    (isTerminal : Bool) :
    ((run words env isTerminal).run answer w).1.code = 1 ∧
      sent ((run words env isTerminal).transcript answer w) = [] ∧
      (changes ((run words env isTerminal).transcript answer w) = [] ∨
        ∃ s path now opened, (i.settings.run.run answer w).1 = .ok s ∧
          s.logPath env = .ok (some path) ∧
          Course (Log.openLogFile s.log path now)
            (changes ((run words env isTerminal).transcript answer w)) opened) := by
  have hload : sent (i.settings.run.transcript answer w) = [] ∧
      changes (i.settings.run.transcript answer w) = [] :=
    ⟨Host.sent_of_only (i.only_settings fun _ _ => rfl),
      Host.changes_of_only (i.only_settings fun _ h => h)⟩
  rw [(answered_of_read hread isTerminal answer w).1, (answered_of_read hread isTerminal answer w).2,
    i.run_eq]
  rcases hsettings with ⟨t, ht⟩ | ⟨s, f, hs, hf⟩
  · rw [(Task.bind_of_error ht).1, (Task.bind_of_error ht).2]
    exact ⟨rfl, hload.1, .inl hload.2⟩
  · obtain ⟨t₀, hnone⟩ : ∃ t₀,
        (i.session s env (Output.areColorsWanted env isTerminal)).connection = .error t₀ :=
      ⟨_, Session.connection_of_invalid hf⟩
    have hnothing := fun _ : Unit => Command.run_of_no_connection hnone hcommand
    obtain ⟨⟨t, ht⟩, htranscript⟩ := Task.bind_of_trouble (i.ready env s) hnothing answer
      (i.settings.run.run answer w).2
    rw [(Task.bind_of_ok hs).1, (Task.bind_of_ok hs).2, ht, htranscript, Host.sent_append,
      Host.changes_append, hload.1, hload.2, List.nil_append, List.nil_append]
    have hsilent : Only (fun q : Host.Step => q.sent? = none) (i.ready env s).run :=
      i.only_ready (by rfl) (fun _ _ => by rfl) env s
    refine ⟨rfl, Host.sent_of_only hsilent, ?_⟩
    rcases i.changes_ready answer env s (i.settings.run.run answer w).2 with
      hnone | ⟨path, now, opened, hpath, hopened⟩
    · exact .inl hnone
    · exact .inr ⟨s, path, now, opened, hs, hpath, hopened⟩

/-- To register a node that is told two digits for its address. -/
def shortAddressed : Invocation where
  command := .register
  override := ⟨some "http://[::1]", none, some "0x12"⟩

def shortAddressWords : List String :=
  ["register", "--coordinator-url=http://[::1]", "--address", "0x12"]

/-- A node that is told two digits for its address is not registered. -/
theorem register_with_short_address :
    (Invocation.read [] shortAddressWords = .ok shortAddressed ∧
        shortAddressed.command.concernsNode = true ∧
        ∃ s f, (shortAddressed.settings.run.run Host.World.answer Host.World.empty).1 = .ok s ∧
          s.validate = .error f) ∧
      ((run shortAddressWords [] false).run Host.World.answer Host.World.empty).1.code = 1 ∧
      sent ((run shortAddressWords [] false).transcript Host.World.answer Host.World.empty) = [] := by
  have hread : Invocation.read [] shortAddressWords = .ok shortAddressed := by rfl
  have hsettings : (shortAddressed.settings.run.run Host.World.answer Host.World.empty).1 =
      .ok (Settings.override {} shortAddressed.override) := by rfl
  obtain ⟨f, hf⟩ : ∃ f, (Settings.override {} shortAddressed.override).validate = .error f :=
    ⟨_, by rfl⟩
  obtain ⟨hcode, hsent, -⟩ := fails_before_any_effect hread rfl (.inr ⟨_, f, hsettings, hf⟩) false
  exact ⟨⟨hread, rfl, _, f, hsettings, hf⟩, hcode, hsent⟩

end Program

end Enrollment
