import Enrollment.Host.Basic
import Enrollment.Invocation.Basic
import Enrollment.Output.Printing
import Enrollment.Output.Style
import Enrollment.Release.Check
import Enrollment.Trouble
/-!
# Sessions

All that a command works with: the settings in force, how results are printed, and the variables
that the program was started with.

Main statement: a connection is there only if the settings can be used (`validate_of_connection`).
-/

namespace Enrollment

/-- What a command works with. -/
structure Session where
  settings : Settings
  settingsPath : String
  environment : Environment
  form : Output.Form := .pretty
  isVerbose : Bool := false
  hasColors : Bool := false
  skipsReleaseCheck : Bool := false
  deriving DecidableEq

/-- Something done on a host, which may end in trouble. -/
abbrev Task := ExceptT Trouble (Plan Host)

namespace Task

/-- Does something that cannot fail. -/
def lift {α : Type} (p : Plan Host α) : Task α :=
  ExceptT.lift p

/-- Goes on with a value, or ends in trouble. -/
def ofExcept {α : Type} : Except Trouble α → Task α
  | .ok a => pure a
  | .error t => throw t

def attempt {α : Type} (p : Plan Host (Except Failure α)) : Task α := do
  match ← lift p with
  | .ok a => return a
  | .error f => throw f.toTrouble

end Task

namespace Session

/-- The connection to the coordinator, if the settings can be used. -/
def connection (s : Session) : Except Trouble Client.Connection :=
  match s.settings.validate with
  | .error f => .error (f.toTrouble.within ("Invalid configuration (" ++ s.settingsPath ++ ")"))
  | .ok () => s.settings.coordinator.connect.mapError Failure.toTrouble

/-- The life of the node at the coordinator of a connection. -/
def lifecycle (s : Session) (c : Client.Connection) : Except Trouble Lifecycle :=
  (s.settings.lifecycle s.environment c.baseUrl).mapError Failure.toTrouble

/-- Warns if there is another release, unless that is not wanted. -/
def checkRelease (s : Session) (c : Client.Connection) : Plan Host Unit :=
  if s.skipsReleaseCheck || !s.settings.releaseCheck.enabled then return ()
  else Host.onWire (Release.warnIfOutdated c s.settings.releaseCheck.url)

def paint (s : Session) (style : Output.Style) (text : String) : String :=
  Output.paint s.hasColors style text

def success (s : Session) : String :=
  s.paint (.strongly .green) "Success:"

/-- A word in front of something worth knowing. -/
def notice (s : Session) : String :=
  s.paint (.strongly .yellow) "Note:"

def labelled (s : Session) (margin label text : String) : String :=
  margin ++ s.paint .strong label ++ " " ++ text

def aboutNode (s : Session) (word : String) (address : Address) (what : String) : String :=
  word ++ " Node " ++ s.paint (.colored .cyan) address.text ++ what

def present (s : Session) (document : Document.Value) (lines : List String) : Plan Host Unit :=
  Output.present s.form document lines

theorem validate_of_connection {s : Session} {c : Client.Connection} (h : s.connection = .ok c) :
    s.settings.validate = .ok () := by
  unfold connection at h
  split at h
  · simp at h
  · assumption

end Session

/-- A number of seconds in hours, minutes and seconds. -/
def durationText (seconds : Nat) : String :=
  let h := seconds / 3600
  let m := seconds % 3600 / 60
  let s := Text.decimal (seconds % 60) ++ "s"
  if h = 0 then if m = 0 then s else Text.decimal m ++ "m " ++ s
  else Text.decimal h ++ "h " ++ Text.decimal m ++ "m " ++ s

end Enrollment
