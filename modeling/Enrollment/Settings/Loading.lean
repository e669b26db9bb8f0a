import Enrollment.Files.Path
import Enrollment.Files.Request
import Enrollment.Json.Reader
import Enrollment.Lifecycle.Basic
import Enrollment.Settings.Expansion
import Enrollment.Settings.Validation
import Enrollment.Toml.Reader
/-!
# Loading settings

Settings come from a file and are changed by what was said when the program was started. Paths in
them may name variables; the record has a place of its own if they name none.
-/

namespace Enrollment.Settings

open Files (Disk)

/-- The file that is read if no other one is named. -/
def standardPath : String := "config.json"

def isTomlPath (path : String) : Bool :=
  ((Files.Path.extensionOf? path).map fun e => e.map Char.toLower) == some "toml"

/-- Reads settings as the name of their file tells. -/
def decodeFile (path text : String) : Except Document.Fault Settings :=
  if isTomlPath path then Toml.decode codec text else Json.decode codec text

def interpret (path : String) (read : Except Files.Fault String) : Except Failure Settings :=
  match read with
  | .error .notFound => .error (.settings ("config file not found: " ++ path))
  | .error fault => .error (.settings ("cannot read " ++ path ++ ": " ++ fault.message))
  | .ok text =>
    match decodeFile path text with
    | .ok s => .ok s
    | .error fault => .error (.settings (path ++ ": " ++ fault.message))

def load (path : String) : Plan Disk (Except Failure Settings) := do
  return interpret path (← Disk.readText path)

/-- The settings of a file, or the standard settings if it is not there. -/
def loadOrStandard (path : String) : Plan Disk (Except Failure Settings) := do
  if ← Disk.probe path then load path
  else
    Disk.note .debug "Config file not found, using defaults" [("path", path)]
    return .ok {}

/-! ## What was said otherwise -/

/-- What takes the place of settings. -/
structure Override where
  coordinatorUrl : Option String := none
  apiKey : Option String := none
  address : Option String := none
  deriving DecidableEq, Repr

/-- Settings of which some are said otherwise. -/
def override (s : Settings) (o : Override) : Settings :=
  { s with
    coordinator := { s.coordinator with
      url := o.coordinatorUrl.getD s.coordinator.url
      apiKey := o.apiKey.or s.coordinator.apiKey }
    node := { s.node with address := o.address.getD s.node.address } }

/-! ## Paths -/

/-- What a path in settings stands for. -/
def expandPath (env : Environment) (path : String) : Except Failure String :=
  match expand env path with
  | .ok path => .ok path
  | .error name =>
    .error (.settings ("cannot expand " ++ path ++ ": error looking key '" ++ name ++
      "' up: environment variable not found"))

def recordFile : String := "node-registration.json"

/-- The directory in which the data of programs is kept. -/
def dataHome? (env : Environment) : Option String :=
  match env.value? "XDG_DATA_HOME" with
  | some path =>
    if Files.Path.isAbsolute path then some path
    else (home? env).map fun home => Files.Path.join home ".local/share"
  | none => (home? env).map fun home => Files.Path.join home ".local/share"

def recordPath (s : Settings) (env : Environment) : Except Failure String :=
  match s.node.recordPath with
  | some path => expandPath env path
  | none =>
    match dataHome? env with
    | none => .ok recordFile
    | some home =>
      .ok (Files.Path.join (Files.Path.join home "infernet-node") recordFile)

def logPath (s : Settings) (env : Environment) : Except Failure (Option String) :=
  match s.log.path with
  | none => .ok none
  | some path => (expandPath env path).map some

/-- The life of the node, at the coordinator with the given URL. -/
def lifecycle (s : Settings) (env : Environment) (coordinatorUrl : String) :
    Except Failure Lifecycle := do
  let recordPath ← s.recordPath env
  let address ← s.nodeAddress
  let paymentAddress ← s.paymentAddress
  return { address, paymentAddress, containers := s.containerIds, coordinatorUrl, recordPath }

/-! ## What may be shown -/

/-- A token of which only the ends are shown, if it is long enough. -/
def mask (key : String) : String :=
  let cs := key.toList
  if Text.byteLength cs > 8 ∧ cs.all fun c => c.toNat < 0x80 then
    String.ofList (cs.take 4) ++ "..." ++ String.ofList (cs.drop (cs.length - 4))
  else "****"

def redacted (s : Settings) : Settings :=
  { s with coordinator := { s.coordinator with apiKey := s.coordinator.apiKey.map mask } }

end Enrollment.Settings
