import Enrollment.Invocation.Grammar
import Enrollment.Settings.Loading
/-!
# Invocations

What the program is asked to do, and with which settings.
-/

namespace Enrollment

/-- What the program is asked to do. -/
inductive Command
  | register
  | activate
  | deactivate
  | status
  | version (compared : Bool)
  | showSettings
  | showPaths
  | checkSettings
  deriving DecidableEq, Repr

/-- What the program is asked to do, and how. -/
structure Invocation where
  command : Command
  settingsPath : String := Settings.standardPath
  override : Settings.Override := {}
  form : Output.Form := .pretty
  skipsReleaseCheck : Bool := false
  isVerbose : Bool := false
  isColorless : Bool := false
  deriving DecidableEq, Repr

end Enrollment
