import Enrollment.Command.Inspection
import Enrollment.Command.Lifecycle
import Enrollment.Log.Setup
/-!
# Running invocations

An invocation is run by loading the settings, applying what was said otherwise, setting up logging,
and doing what is asked for.

Main statement: a named file other than the standard one is read even if it is not there
(`loadSettings_of_named`).
-/

namespace Enrollment

def Command.run (s : Session) : Command → Task Unit
  | register => runRegister s
  | activate => runActivate s
  | deactivate => runDeactivate s
  | status => runStatus s
  | version compared => runVersion s compared
  | showSettings => runShowSettings s
  | showPaths => runShowPaths s
  | checkSettings => runCheckSettings s

namespace Invocation

/-- The settings as their file has them. Only the standard file may be missing. -/
def loadSettings (path : String) : Plan Files.Disk (Except Failure Settings) :=
  if Files.Path.sameAs path Settings.standardPath then Settings.loadOrStandard path
  else Settings.load path

theorem loadSettings_of_named {path : String}
    (h : Files.Path.sameAs path Settings.standardPath = false) :
    loadSettings path = Settings.load path := by
  simp [loadSettings, h]

def settings (i : Invocation) : Task Settings := do
  match ← Task.lift (Host.onDisk (loadSettings i.settingsPath)) with
  | .error f => throw (f.toTrouble.within ("Failed to load config from " ++ i.settingsPath))
  | .ok s => return s.override i.override

def session (i : Invocation) (settings : Settings) (env : Environment) (hasColors : Bool) :
    Session where
  settings
  settingsPath := i.settingsPath
  environment := env
  form := i.form
  isVerbose := i.isVerbose
  hasColors := hasColors && !i.isColorless
  skipsReleaseCheck := i.skipsReleaseCheck

/-- What is done with the settings on logging, and with the file to log to, in front of a command. -/
abbrev Preparation := Settings.Log → Option String → Plan Host (Except Trouble Unit)

def perform (i : Invocation) (env : Environment) (hasColors : Bool) (prepare : Preparation) :
    Task Unit := do
  let settings ← i.settings
  let logPath ← Task.ofExcept ((settings.logPath env).mapError Failure.toTrouble)
  ExceptT.mk (prepare settings.log logPath)
  i.command.run (i.session settings env hasColors)

def logging (i : Invocation) (env : Environment) : Preparation := fun s file =>
  Log.setUp s env file i.isVerbose

def run (i : Invocation) (env : Environment) (hasColors : Bool) :
    Plan Host (Except Trouble Unit) :=
  (i.perform env hasColors (i.logging env)).run

/-- Runs an invocation without logging. -/
def runSilently (i : Invocation) (env : Environment) (hasColors : Bool) :
    Plan Host (Except Trouble Unit) :=
  (i.perform env hasColors fun _ _ => return .ok ()).run

end Invocation

end Enrollment
