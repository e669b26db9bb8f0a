import Enrollment.Proofs.Command.Preparation
import Enrollment.Proofs.Host.Parts
import Enrollment.Proofs.Invocation.Naming
import Enrollment.Proofs.Registration.Keeping
/-!
# Settings files that are missing

A run whose settings file is not there ends right there and tells so, unless the path of the file is
spelled as the standard one is: then the standard settings are taken. Whether the path was named, on
the command line or in the environment, or stands for itself because none was, makes no difference.

Results:
 1. `Settings.load_eq`: a file is loaded with one question.
 2. `Invocation.loads_standard`, `Invocation.loads_file`: the two ways to settings.
 3. `Program.missing_settings_iff`: when a run takes the standard settings, and when it ends for want
    of a file.
-/

namespace Enrollment

open Files (Disk Tree)
open Host (sent changes)

variable {σ : Type}

/-! ## Loading a file -/

/-- A file is loaded with one question. -/
theorem Settings.load_eq (path : String) :
    Settings.load path = Plan.ask (I := Disk) (.read path) fun read =>
      .done (interpret path (Registration.Store.asText read)) := by
  unfold load Files.Disk.readText
  simp only [Plan.bind_eq, Plan.request, Plan.ask_bind, Plan.done_bind]
  congr 1
  funext read
  cases read with
  | error fault => rfl
  | ok bytes =>
    simp only [Registration.Store.asText]
    cases Text.decodeUtf8? bytes with
    | none => rfl
    | some text => rfl

/-- Where there is no file, nothing can be looked at. -/
theorem Files.Tree.look_of_notFound {t : Tree} {path : String} (h : t.read path = .error .notFound) :
    t.look path = .error .notFound := by
  unfold read at h
  cases hlook : t.look path with
  | error fault =>
    rw [hlook] at h
    cases h
    rfl
  | ok entry =>
    rw [hlook] at h
    cases entry <;> cases h

namespace Invocation

/-- What is told of a settings file that is missing. -/
def missing (path : String) : Trouble :=
  ⟨"Failed to load config from " ++ path, ["configuration error: config file not found: " ++ path]⟩

def settled (i : Invocation) : Except Failure Settings → Except Trouble Settings
  | .error f => .error (f.toTrouble.within ("Failed to load config from " ++ i.settingsPath))
  | .ok s => .ok (s.override i.override)

/-- What comes of the settings of an invocation when its file has been read. -/
def settledBy (i : Invocation) (read : Except Files.Fault Text.Bytes) : Except Trouble Settings :=
  i.settled (Settings.interpret i.settingsPath (Registration.Store.asText read))

/-- A file that cannot be read is told apart from one that is not there. -/
theorem cannotRead_ne_notFound (text text' : String) :
    "configuration error: " ++ ("cannot read " ++ text) ≠
      "configuration error: config file not found: " ++ text' := by
  intro h
  have hsplit : "configuration error: config file not found: " =
      "configuration error: " ++ "config file not found: " := by decide +kernel
  rw [hsplit, String.append_assoc, String.append_right_inj] at h
  have hsecond := congrArg (fun s : String => s.toList[1]?) h
  simp only [String.toList_append] at hsecond
  simp at hsecond

/-- A settings file that cannot be read is missing just when there is no such file. -/
theorem settledBy_eq_missing_iff (i : Invocation) {fault : Files.Fault} :
    i.settledBy (.error fault) = .error (missing i.settingsPath) ↔ fault = .notFound := by
  constructor
  · intro h
    by_contra hfault
    have htold : i.settledBy (.error fault) =
        .error ⟨"Failed to load config from " ++ i.settingsPath, ["configuration error: " ++
          ("cannot read " ++ i.settingsPath ++ ": " ++ fault.message)]⟩ := by
      cases fault with
      | notFound => exact absurd rfl hfault
      | _ => rfl
    rw [htold, String.append_assoc, String.append_assoc] at h
    injection h with htrouble
    injection htrouble with hmessage hcauses
    injection hcauses with hcause
    exact cannotRead_ne_notFound _ _ hcause
  · rintro rfl
    rfl

variable {i : Invocation}

theorem settings_run (i : Invocation) :
    i.settings.run = (Host.onDisk (loadSettings i.settingsPath)).bind fun o => .done (i.settled o) := by
  unfold settings
  rw [Task.run_bind, Task.run_lift, Plan.bind_assoc]
  congr 1
  funext o
  cases o with
  | error f => rfl
  | ok s => rfl

def reading (i : Invocation) : Plan Host (Except Trouble Settings) :=
  .ask (.disk (.read i.settingsPath)) fun read => .done (i.settledBy read)

theorem settings_of_named
    (hpath : Files.Path.sameAs i.settingsPath Settings.standardPath = false) :
    i.settings.run = i.reading := by
  rw [settings_run, loadSettings_of_named hpath, Settings.load_eq]
  rfl

/-- The note that the standard settings are taken. -/
def standardNote (path : String) : Log.Event :=
  ⟨.debug, "Config file not found, using defaults", [("path", path)]⟩

theorem settings_of_standard
    (hpath : Files.Path.sameAs i.settingsPath Settings.standardPath = true) :
    i.settings.run = .ask (I := Host) (.disk (.probe i.settingsPath)) fun there =>
      if there then i.reading
      else .ask (I := Host) (.disk (.note (standardNote i.settingsPath))) fun _ =>
        .done (i.settled (.ok {})) := by
  have hload : loadSettings i.settingsPath = Settings.loadOrStandard i.settingsPath := if_pos hpath
  rw [settings_run, hload]
  show Plan.ask (I := Host) (.disk (.probe i.settingsPath)) _ = _
  congr 1
  funext there
  cases there with
  | false => rfl
  | true =>
    show Plan.bind (Host.onDisk (Settings.load i.settingsPath)) _ = _
    rw [Settings.load_eq]
    rfl

/-! ## On a machine with a disk in memory -/

/-- The standard settings are taken, but for what was said otherwise, and no file is read. -/
structure TakesStandard (i : Invocation) (answer : (s : Host.Request) → σ → Host.Answer s × σ)
    (w : σ) : Prop where
  settings : (i.settings.run.run answer w).1 = .ok (Settings.override {} i.override)
  unread : ∀ e ∈ i.settings.run.transcript answer w, ∀ path, e.request ≠ .disk (.read path)

section

variable {ν κ : Type} {m : Host.Parts Tree ν κ} (hdisk : ∀ s t, m.disk s t = t.answer s)
  {w : Host.Parts.State Tree ν κ}

include hdisk

theorem answer_look {s : Files.Step} (hs : s.changes = false) :
    m.answer (.disk s) w = ((w.disk.answer s).1, w) := by
  have hsame := Files.Tree.answer_of_keeps hs w.disk
  show ((m.disk s w.disk).1, { w with disk := (m.disk s w.disk).2 }) = _
  rw [hdisk, hsame]

theorem run_reading :
    (i.reading.run m.answer w).1 = i.settledBy (w.disk.read i.settingsPath) ∧
      ∃ e ∈ i.reading.transcript m.answer w, e.request = .disk (.read i.settingsPath) := by
  have hread := answer_look hdisk (w := w) (s := .read i.settingsPath) rfl
  refine ⟨?_, ?_⟩
  · rw [Plan.run_of_ask (p := i.reading) rfl hread]
    rfl
  · rw [Plan.transcript_ask (p := i.reading) rfl hread]
    exact ⟨_, List.mem_cons_self, rfl⟩

/-- A file is read that is not the standard one, or where there is something. -/
theorem loads_file
    (h : Files.Path.sameAs i.settingsPath Settings.standardPath = false ∨
      ∃ entry, w.disk.look i.settingsPath = .ok entry) :
    (i.settings.run.run m.answer w).1 = i.settledBy (w.disk.read i.settingsPath) ∧
      ∃ e ∈ i.settings.run.transcript m.answer w, e.request = .disk (.read i.settingsPath) := by
  cases hpath : Files.Path.sameAs i.settingsPath Settings.standardPath with
  | false =>
    rw [settings_of_named hpath]
    exact run_reading hdisk
  | true =>
    obtain ⟨entry, hentry⟩ : ∃ entry, w.disk.look i.settingsPath = .ok entry := by
      rcases h with hnot | hsome
      · rw [hpath] at hnot
        cases hnot
      · exact hsome
    have hprobe : m.answer (.disk (.probe i.settingsPath)) w = (true, w) := by
      rw [answer_look hdisk rfl]
      show ((w.disk.look i.settingsPath).toBool, w) = _
      rw [hentry]
      rfl
    obtain ⟨hrun, e, he, hrequest⟩ := run_reading (i := i) hdisk (w := w)
    rw [Plan.run_of_ask (settings_of_standard hpath) hprobe,
      Plan.transcript_ask (settings_of_standard hpath) hprobe]
    exact ⟨hrun, e, List.mem_cons_of_mem _ he, hrequest⟩

/-- The standard settings are taken where nothing is under the path of the standard file. -/
theorem loads_standard (hpath : Files.Path.sameAs i.settingsPath Settings.standardPath = true)
    {fault : Files.Fault} (hlook : w.disk.look i.settingsPath = .error fault) :
    i.TakesStandard m.answer w := by
  have hprobe : m.answer (.disk (.probe i.settingsPath)) w = (false, w) := by
    rw [answer_look hdisk rfl]
    show ((w.disk.look i.settingsPath).toBool, w) = _
    rw [hlook]
    rfl
  refine ⟨?_, ?_⟩
  · rw [Plan.run_of_ask (settings_of_standard hpath) hprobe]
    rfl
  · rw [Plan.transcript_ask (settings_of_standard hpath) hprobe]
    intro e he path hrequest
    rcases List.mem_cons.1 he with rfl | he
    · cases hrequest
    · cases List.mem_singleton.1 he
      cases hrequest

theorem takesStandard_iff :
    i.TakesStandard m.answer w ↔
      Files.Path.sameAs i.settingsPath Settings.standardPath = true ∧
        ∃ fault, w.disk.look i.settingsPath = .error fault := by
  constructor
  · intro h
    by_contra hnot
    have hfile : Files.Path.sameAs i.settingsPath Settings.standardPath = false ∨
        ∃ entry, w.disk.look i.settingsPath = .ok entry := by
      cases hlook : w.disk.look i.settingsPath with
      | ok entry => exact .inr ⟨entry, rfl⟩
      | error fault => exact .inl (Bool.eq_false_iff.2 fun hpath => hnot ⟨hpath, fault, hlook⟩)
    obtain ⟨-, e, he, hrequest⟩ := loads_file hdisk hfile
    exact h.unread e he _ hrequest
  · rintro ⟨hpath, fault, hlook⟩
    exact loads_standard hdisk hpath hlook

end

end Invocation

/-! ## Whole runs -/

namespace Program

/-- A run ends with loading its settings, because their file is missing: it tells so, and nothing is
sent and nothing changed on the disk. -/
structure EndsAsMissing (words : List String) (env : Environment) (isTerminal : Bool) (i : Invocation)
    (answer : (s : Host.Request) → σ → Host.Answer s × σ) (w : σ) : Prop where
  settings : (i.settings.run.run answer w).1 = .error (Invocation.missing i.settingsPath)
  ending : ((run words env isTerminal).run answer w).1 =
    { code := 1, complaint := (Invocation.missing i.settingsPath).report }
  sent : sent ((run words env isTerminal).transcript answer w) = []
  changes : changes ((run words env isTerminal).transcript answer w) = []

theorem endsAsMissing {words : List String} {env : Environment} {i : Invocation}
    (hread : Invocation.read env words = .ok i) (isTerminal : Bool)
    {answer : (s : Host.Request) → σ → Host.Answer s × σ} {w : σ}
    (hsettings : (i.settings.run.run answer w).1 = .error (Invocation.missing i.settingsPath)) :
    EndsAsMissing words env isTerminal i answer w where
  settings := hsettings
  ending := by
    rw [(answered_of_read hread isTerminal answer w).1, i.run_eq, (Task.bind_of_error hsettings).1]
    rfl
  sent := by
    rw [(answered_of_read hread isTerminal answer w).2, i.run_eq, (Task.bind_of_error hsettings).2]
    exact Host.sent_of_only (i.only_settings fun _ _ => rfl)
  changes := by
    rw [(answered_of_read hread isTerminal answer w).2, i.run_eq, (Task.bind_of_error hsettings).2]
    exact Host.changes_of_only (i.only_settings fun _ h => h)

/-- On every machine with a disk in memory: the path of the settings is one that is named for it, or
the standard one if none is. The standard settings are taken just when the path is spelled as the
standard one, named or not, and nothing is there. A run whose file cannot be read ends for want of it
just when the path is not spelled so and the file is not there. -/
theorem missing_settings_iff {words : List String} {env : Environment} {i : Invocation}
    (hread : Invocation.read env words = .ok i) (isTerminal : Bool) {ν κ : Type}
    (m : Host.Parts Tree ν κ) (hdisk : ∀ s t, m.disk s t = t.answer s)
    (w : Host.Parts.State Tree ν κ) :
    (Invocation.Names env words .config i.settingsPath ∨
      i.settingsPath = Settings.standardPath ∧ ∀ path, ¬ Invocation.Names env words .config path) ∧
    (i.TakesStandard m.answer w ↔
      Files.Path.sameAs i.settingsPath Settings.standardPath = true ∧
        ∃ fault, w.disk.look i.settingsPath = .error fault) ∧
    ∀ fault, w.disk.read i.settingsPath = .error fault →
      (EndsAsMissing words env isTerminal i m.answer w ↔
        Files.Path.sameAs i.settingsPath Settings.standardPath = false ∧ fault = .notFound) := by
  refine ⟨Invocation.settingsPath_named hread, Invocation.takesStandard_iff hdisk,
    fun fault hfault => ?_⟩
  constructor
  · intro hends
    -- If the file was read at all, it was not there.
    have hmissing (hloads : Files.Path.sameAs i.settingsPath Settings.standardPath = false ∨
        ∃ entry, w.disk.look i.settingsPath = .ok entry) : fault = .notFound := by
      have hsettings := (Invocation.loads_file hdisk hloads).1
      rw [hends.settings, hfault] at hsettings
      exact i.settledBy_eq_missing_iff.1 hsettings.symm
    cases hpath : Files.Path.sameAs i.settingsPath Settings.standardPath with
    | false => exact ⟨rfl, hmissing (.inl hpath)⟩
    | true =>
      cases hlook : w.disk.look i.settingsPath with
      | error fault' =>
        cases (Invocation.loads_standard hdisk hpath hlook).settings.symm.trans hends.settings
      | ok entry =>
        obtain rfl := hmissing (.inr ⟨entry, hlook⟩)
        cases hlook.symm.trans (Files.Tree.look_of_notFound hfault)
  · rintro ⟨hnamed, rfl⟩
    refine endsAsMissing hread isTerminal ?_
    rw [(Invocation.loads_file hdisk (.inl hnamed)).1, hfault]
    exact i.settledBy_eq_missing_iff.2 rfl

/-- The words to tell the version with a settings file that is named as the standard one is. -/
def namedStandardWords : List String :=
  ["-c", "config.json", "version"]

/-- A file is named and missing, and the standard settings are taken. -/
theorem named_standard_is_taken :
    Invocation.Names [] namedStandardWords .config "config.json" ∧
      (⟨[], []⟩ : Tree).read "config.json" = .error .notFound ∧
      ∃ i, Invocation.read [] namedStandardWords = .ok i ∧
        i.TakesStandard Host.Parts.scripted.answer ⟨⟨[], []⟩, [], Host.World.empty.clock⟩ ∧
        ¬ EndsAsMissing namedStandardWords [] false i Host.Parts.scripted.answer
          ⟨⟨[], []⟩, [], Host.World.empty.clock⟩ := by
  have hread : Invocation.read [] namedStandardWords =
      .ok { command := .version false, settingsPath := "config.json" } := by rfl
  obtain ⟨-, hstandard, hends⟩ := missing_settings_iff hread false Host.Parts.scripted
    (fun _ _ => rfl) ⟨⟨[], []⟩, [], Host.World.empty.clock⟩
  refine ⟨.inl (.behind "-c" (.short (.here rfl [])) ⟨[], ["version"], rfl⟩), rfl, _, hread, ?_, ?_⟩
  · exact hstandard.2 ⟨by decide +kernel, .notFound, rfl⟩
  · intro h
    obtain ⟨hnot, -⟩ := (hends .notFound rfl).1 h
    revert hnot
    decide +kernel

end Program

end Enrollment
