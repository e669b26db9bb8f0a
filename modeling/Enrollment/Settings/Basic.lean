import Enrollment.Document.Codec
/-!
# Settings

What a node is told in its configuration file: where the coordinator is, who the node is, which
containers it serves, how it logs, and whether it looks for releases. Whatever is absent in a file
has a value here.
-/

namespace Enrollment

open Document (Codec Layout)

namespace Settings

structure Coordinator where
  url : String := ""
  apiKey : Option String := none
  /-- How many seconds a request may take. -/
  timeout : UInt64 := 30
  maxRetries : UInt32 := 0
  deriving DecidableEq, Repr

/-- The node itself. -/
structure Identity where
  address : String := ""
  paymentAddress : Option String := none
  recordPath : Option String := none
  deriving DecidableEq, Repr

/-- A container that the node serves. -/
structure Container where
  id : String
  image : String
  gpu : Bool := false
  description : String := ""
  deriving DecidableEq, Repr

/-- The form of log lines on the console. -/
inductive LogForm
  | text
  | json
  deriving DecidableEq, Repr

/-- When a new log file is begun. -/
inductive Rotation
  | never
  | hourly
  | daily
  deriving DecidableEq, Repr

structure Log where
  path : Option String := none
  level : String := "info"
  form : LogForm := .text
  fileLevel : String := "debug"
  rotation : Rotation := .daily
  maxFiles : UInt64 := 3
  deriving DecidableEq, Repr

/-- The release manifest that is looked at by default. -/
def releaseUrl : String :=
  "https://raw.githubusercontent.com/ritual-net/infernet-node-rs/main/Cargo.toml"

/-- The look for a newer release. -/
structure ReleaseCheck where
  enabled : Bool := true
  url : String := releaseUrl
  deriving DecidableEq, Repr

end Settings

/-- All that a node is told. -/
structure Settings where
  coordinator : Settings.Coordinator := {}
  node : Settings.Identity := {}
  containers : List Settings.Container := []
  log : Settings.Log := {}
  releaseCheck : Settings.ReleaseCheck := {}
  deriving DecidableEq, Repr

namespace Settings

def LogForm.name : LogForm → String
  | text => "text"
  | json => "json"

def Rotation.name : Rotation → String
  | never => "never"
  | hourly => "hourly"
  | daily => "daily"

def Coordinator.layout : Layout Coordinator Coordinator :=
  (((Layout.make Coordinator.mk).defaulted "url" .text "" (·.url)).elided
    "api_key" .text (·.apiKey)).defaulted
    "timeout_secs" .word64 30 (·.timeout) |>.defaulted
    "max_retries" .word32 0 (·.maxRetries)

def Identity.layout : Layout Identity Identity :=
  ((Layout.make Identity.mk).defaulted "address" .text "" (·.address)).elided
    "payment_address" .text (·.paymentAddress) |>.elided
    "state_path" .text (·.recordPath)

/-- An item of the list of containers. -/
def Container.layout : Layout Container Container :=
  (((Layout.make Container.mk).required "id" .text (·.id)).required
    "image" .text (·.image)).defaulted
    "gpu" .boolean false (·.gpu) |>.defaulted
    "description" .text "" (·.description)

def Log.layout : Layout Log Log :=
  (((((Layout.make Log.mk).elided "path" .text (·.path)).defaulted
    "level" .text "info" (·.level)).defaulted
    "format" (.named LogForm.name [.text, .json]) .text (·.form)).defaulted
    "file_level" .text "debug" (·.fileLevel)).defaulted
    "rotation" (.named Rotation.name [.never, .hourly, .daily]) .daily (·.rotation) |>.defaulted
    "max_files" .word64 3 (·.maxFiles)

def ReleaseCheck.layout : Layout ReleaseCheck ReleaseCheck :=
  (Layout.make ReleaseCheck.mk).defaulted "enabled" .boolean true (·.enabled) |>.defaulted
    "url" .text releaseUrl (·.url)

def layout : Layout Settings Settings :=
  ((((Layout.make Settings.mk).defaulted
    "coordinator" Coordinator.layout.codec {} (·.coordinator)).defaulted
    "node" Identity.layout.codec {} (·.node)).defaulted
    "containers" (.listOf Container.layout.codec) [] (·.containers)).defaulted
    "log" Log.layout.codec {} (·.log) |>.defaulted
    "version_check" ReleaseCheck.layout.codec {} (·.releaseCheck)

def codec : Codec Settings :=
  layout.codec

/-- Logging alone, as a record. -/
def Log.codec : Codec Log :=
  layout.codec

end Settings

end Enrollment
