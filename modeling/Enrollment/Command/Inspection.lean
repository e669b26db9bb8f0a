import Enrollment.Command.Session
/-!
# Commands that inspect

Telling the version of this build and what the settings are. None of them changes anything.
-/

namespace Enrollment.Command

/-! ## The version -/

/-- The version of this build and its images as a document. -/
def versionDocument (standing : Option Release.Standing) : Document.Value :=
  .record ([("version", .text buildVersion),
    ("images", .list (Image.ofBuild.map fun i => .text i.reference))] ++
    (standing.map fun standing => ("release", standing.encode)).toList)

/-- What a user is told about the latest release. -/
def standingLines (s : Session) : Option Release.Standing → List String
  | none => []
  | some .upToDate => ["", s.paint (.colored .green) "Running the latest release."]
  | some (.outdated latest) =>
    ["", s.paint (.strongly .yellow) "Warning:" ++ " Latest release is v" ++ latest ++
      ". Consider updating your node."]

/-- What a user is told about this build. -/
def versionLines (s : Session) (standing : Option Release.Standing) : List String :=
  s.labelled "" "infernet-node" buildVersion ::
    Image.ofBuild.map (fun i => s.labelled "  " "Image:" i.reference) ++ standingLines s standing

/-- How this build compares with the latest release. -/
def standing (s : Session) : Task Release.Standing := do
  let url := s.settings.releaseCheck.url
  let timeout := Client.Span.ofSeconds (max 1 s.settings.coordinator.timeout.toNat)
  match Client.connect url none timeout with
  | .error f => throw (f.toTrouble.within ("Invalid release URL: " ++ url))
  | .ok c => Task.attempt (Host.onWire (Release.check c url))

def runVersion (s : Session) (compared : Bool) : Task Unit := do
  let standing ← if compared then some <$> standing s else pure none
  Task.lift (s.present (versionDocument standing) (versionLines s standing))

/-! ## The settings -/

/-- A text that says something; else a word for nothing. -/
def orUnset (s : Session) (text : Option String) : String :=
  text.getD (s.paint .weak "(not set)")

def unlessBlank (text : String) : Option String :=
  if Text.isAllBlank text then none else some text

def truthText (b : Bool) : String :=
  if b then "true" else "false"

/-- What a user is told about containers. -/
def containerLines (s : Session) (containers : List Settings.Container) : List String :=
  if containers.isEmpty then []
  else "" :: s.paint .strong "Containers:" :: containers.map fun c =>
    "  " ++ s.paint (.colored .cyan) c.id ++ " " ++ c.image ++ if c.gpu then " (gpu)" else ""

/-- What a user is told about settings. -/
def settingsLines (s : Session) (shown : Settings) : List String :=
  let c := shown.coordinator
  [s.paint .strong "Current Configuration:", "",
    s.labelled "  " "coordinator.url:" (orUnset s (unlessBlank c.url)),
    s.labelled "  " "coordinator.api_key:" (orUnset s c.apiKey),
    s.labelled "  " "coordinator.timeout_secs:" (Text.decimal c.timeout.toNat ++ "s"),
    s.labelled "  " "coordinator.max_retries:" (Text.decimal c.maxRetries.toNat),
    s.labelled "  " "node.address:" (orUnset s (unlessBlank shown.node.address)),
    s.labelled "  " "node.payment_address:" (orUnset s shown.node.paymentAddress),
    s.labelled "  " "log.level:" shown.log.level,
    s.labelled "  " "version_check.enabled:" (truthText shown.releaseCheck.enabled)] ++
  containerLines s shown.containers

def runShowSettings (s : Session) : Task Unit :=
  let shown := s.settings.redacted
  Task.lift (s.present (Settings.codec.encode shown) (settingsLines s shown))

/-- Shows a path that settings give, if they give one. -/
def showPath (s : Session) (label : String) (path : Except Failure (Option String)) : Task Unit := do
  match ← Task.ofExcept (path.mapError Failure.toTrouble) with
  | none => return ()
  | some path => Task.lift (Output.printLines [s.labelled "" label path])

/-- Shows where settings, record and log are. -/
def runShowPaths (s : Session) : Task Unit := do
  showPath s "config:" (.ok (some s.settingsPath))
  showPath s "state:" ((s.settings.recordPath s.environment).map some)
  showPath s "log:" (s.settings.logPath s.environment)

def runCheckSettings (s : Session) : Task Unit := do
  Task.ofExcept (s.settings.validate.mapError Failure.toTrouble)
  Task.lift (Output.printLines [s.success ++ " Configuration is valid."])

end Enrollment.Command
