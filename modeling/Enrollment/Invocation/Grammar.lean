import Enrollment.Output.Form
import Enrollment.Settings.Environment
/-!
# What a command line may hold

The verbs of the command line, each with those that may follow it, and the switches, which may stand
behind any verb. A switch may take a value, and its value may come from the environment.

Main statements: no two switches have one name (`ofLong?_long`, `ofShort?_short`).
-/

namespace Enrollment.Invocation

/-! ## Verbs -/

/-- A verb, with those in front of it. -/
inductive Verb
  | root
  | register
  | activate
  | deactivate
  | status
  | version
  | config
  | configShow
  | configPath
  | configValidate
  deriving DecidableEq, Repr

namespace Verb

def programName : String := "infernet-node"

def name : Verb → String
  | root => programName
  | register => "register"
  | activate => "activate"
  | deactivate => "deactivate"
  | status => "status"
  | version => "version"
  | config => "config"
  | configShow => "show"
  | configPath => "path"
  | configValidate => "validate"

/-- The names under which a verb is understood. -/
def names : Verb → List String
  | register => ["register", "register-node"]
  | activate => ["activate", "activate-node"]
  | v => [v.name]

/-- The verbs that may follow. If there are any, one of them must. -/
def followers : Verb → List Verb
  | root => [register, activate, deactivate, status, version, config]
  | config => [configShow, configPath, configValidate]
  | _ => []

def follower? (v : Verb) (name : String) : Option Verb :=
  v.followers.find? fun w => w.names.contains name

/-- Whether a name asks for help on the verbs that follow it. -/
def isHelp (v : Verb) (name : String) : Bool :=
  name == "help" && !v.followers.isEmpty

end Verb

/-! ## Switches -/

inductive Switch
  | config
  | coordinatorUrl
  | apiKey
  | address
  | output
  | skipVersionCheck
  | verbose
  | noColor
  | check
  | help
  | version
  deriving DecidableEq, Repr

/-- Why a command line cannot be followed, or need not be. -/
inductive Usage
  | help
  | version (text : String)
  | nothing
  | verbMissing
  | verbUnknown
  /-- No switch is called so, or there is a word too many. -/
  | unknown
  | badValue
  /-- A value from the environment says neither yes nor no. -/
  | undecided
  | repeated
  | valueUnwanted
  deriving DecidableEq, Repr

def Usage.exitCode : Usage → Nat
  | help => 0
  | version _ => 0
  | _ => 2

namespace Switch

def all : List Switch :=
  [config, coordinatorUrl, apiKey, address, output, skipVersionCheck, verbose, noColor, check, help,
    version]

/-- The name of a switch behind two dashes. -/
def long : Switch → String
  | config => "config"
  | coordinatorUrl => "coordinator-url"
  | apiKey => "api-key"
  | address => "address"
  | output => "output"
  | skipVersionCheck => "skip-version-check"
  | verbose => "verbose"
  | noColor => "no-color"
  | check => "check"
  | help => "help"
  | version => "version"

/-- The letter of a switch behind one dash. -/
def short? : Switch → Option Char
  | config => some 'c'
  | output => some 'o'
  | verbose => some 'v'
  | help => some 'h'
  | version => some 'V'
  | _ => none

def takesValue : Switch → Bool
  | config => true
  | coordinatorUrl => true
  | apiKey => true
  | address => true
  | output => true
  | _ => false

/-- The variable that may stand for a switch. -/
def environmentName? : Switch → Option String
  | config => some "INFERNET_CONFIG_PATH"
  | coordinatorUrl => some "INFERNET_COORDINATOR_URL"
  | apiKey => some "INFERNET_COORDINATOR_API_KEY"
  | address => some "INFERNET_NODE_ADDRESS"
  | skipVersionCheck => some "INFERNET_SKIP_VERSION_CHECK"
  | _ => none

/-- Whether a switch may stand behind a verb. -/
def mayFollow (s : Switch) (v : Verb) : Bool :=
  s != check || v == .version

def ofLong? (v : Verb) (name : String) : Option Switch :=
  all.find? fun s => s.long == name && s.mayFollow v

def ofShort? (v : Verb) (letter : Char) : Option Switch :=
  all.find? fun s => s.short? == some letter && s.mayFollow v

/-- Yes or no, in one of several words. -/
def decision? (value : String) : Option Bool :=
  let word := value.map Char.toLower
  if ["y", "yes", "t", "true", "on", "1"].contains word then some true
  else if ["n", "no", "f", "false", "off", "0"].contains word then some false
  else none

def checkValue (s : Switch) (value : String) : Except Usage Unit :=
  match s with
  | config => if value.isEmpty then .error .badValue else .ok ()
  | output => if (Output.Form.ofName? value).isSome then .ok () else .error .badValue
  | skipVersionCheck => if (decision? value).isSome then .ok () else .error .undecided
  | _ => .ok ()

theorem ofLong?_long {s : Switch} {v : Verb} (h : s.mayFollow v) : ofLong? v s.long = some s := by
  revert h
  cases s <;> cases v <;> decide

theorem ofShort?_short {s : Switch} {v : Verb} {letter : Char} (h : s.mayFollow v)
    (hs : s.short? = some letter) : ofShort? v letter = some s := by
  cases s <;> simp [short?] at hs <;> subst hs <;> cases v <;> rfl

end Switch

end Enrollment.Invocation
