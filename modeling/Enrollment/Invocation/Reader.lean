import Enrollment.Invocation.Basic
/-!
# Reading command lines

A command line is read word by word. Behind each verb there is a level of its own, with switches of
its own; a switch that is given at several levels counts at the last of them, and a switch on the
command line counts more than one in the environment. A switch may be given once at each level.

A value that was read is looked at only when the next switch comes or the level ends, so that a word
that cannot be understood comes first.
-/

namespace Enrollment.Invocation

/-! ## A level -/

/-- Where the value of a switch comes from; the last ones count most. -/
inductive Source
  | environment
  | commandLine
  deriving DecidableEq, Repr

/-- A switch that is set, and to what. -/
structure Setting where
  switch : Switch
  source : Source
  value : String
  deriving DecidableEq, Repr

structure Level where
  settings : List Setting := []
  pending : Option (Switch × Option String) := none
  deriving DecidableEq, Repr

namespace Level

def has (l : Level) (s : Switch) : Bool :=
  l.settings.any (·.switch == s)

def set (l : Level) (s : Switch) (source : Source) (value : String) : Except Usage Level :=
  if l.has s then .error .repeated
  else (s.checkValue value).map fun _ => { l with settings := ⟨s, source, value⟩ :: l.settings }

/-- Sets the switch that waits for it. -/
def settle (l : Level) : Except Usage Level :=
  match l.pending with
  | none => .ok l
  | some (_, none) => .error .badValue
  | some (s, some value) => { l with pending := none }.set s .commandLine value

def awaitsValue (l : Level) : Bool :=
  match l.pending with
  | some (_, none) => true
  | _ => false

/-- Takes a word as the value that is awaited. -/
def take (l : Level) (value : String) : Level :=
  { l with pending := l.pending.map fun (s, _) => (s, some value) }

/-- Lets a switch wait for its value. -/
def await (l : Level) (s : Switch) : Except Usage Level := do
  let l ← l.settle
  return { l with pending := some (s, none) }

def give (l : Level) (s : Switch) (value : String) : Except Usage Level := do
  (← l.settle).set s .commandLine value

/-- Sets a switch from the environment, if it is not set and has a variable there. -/
def setFrom (env : Environment) (l : Level) (s : Switch) : Except Usage Level :=
  match s.environmentName?.bind env.value? with
  | some value => if l.has s then .ok l else l.set s .environment value
  | none => .ok l

/-- The level at its end, with what the environment adds. -/
def finish (l : Level) (env : Environment) : Except Usage (List Setting) := do
  let l ← l.settle
  return (← Switch.all.foldlM (setFrom env) l).settings

end Level

/-! ## Words -/

/-- The version of the program as it is shown behind some verbs. -/
def versionText (verbs : List Verb) : String :=
  "-".intercalate (verbs.map Verb.name) ++ " " ++ buildVersion ++ "\n"

/-- Turns a switch on that takes no value; two of them end everything. -/
def turnOn (path : List Verb) (l : Level) (s : Switch) : Except Usage Level := do
  let l ← l.settle
  match s with
  | .help => throw .help
  | .version => throw (.version (versionText path))
  | s => l.set s .commandLine "true"

/-- Reads a word behind two dashes. -/
def readLong (path : List Verb) (v : Verb) (l : Level) (word : List Char) : Except Usage Level :=
  let name := String.ofList (word.takeWhile (· != '='))
  match Switch.ofLong? v name, word.dropWhile (· != '=') with
  | none, _ => .error .unknown
  | some s, [] => if s.takesValue then l.await s else turnOn path l s
  | some s, _ :: value =>
    if s.takesValue then l.give s (String.ofList value) else .error .valueUnwanted

/-- Reads letters behind one dash, up to one whose switch takes the rest as its value. -/
def readShort (path : List Verb) (v : Verb) (l : Level) : List Char → Except Usage Level
  | [] => .ok l
  | c :: rest =>
    match Switch.ofShort? v c with
    | none => .error .unknown
    | some s =>
      if s.takesValue then
        match rest with
        | [] => l.await s
        | '=' :: value => l.give s (String.ofList value)
        | value => l.give s (String.ofList value)
      else
        match turnOn path l s with
        | .error usage => .error usage
        | .ok l => readShort path v l rest

/-- What becomes of a word that is no switch, no value and no verb. -/
def strayWord (v : Verb) (afterDashes : Bool) (word : String) : Usage :=
  if v.followers.isEmpty then .unknown
  else if afterDashes && ((v.follower? word).isSome || v.isHelp word) then .unknown
  else .verbUnknown

/-- What becomes of a call for help on some verbs. -/
def helpOn (v : Verb) : List String → Usage
  | [] => .help
  | word :: rest =>
    match v.follower? word with
    | some w => helpOn w rest
    | none => if v.isHelp word && rest.isEmpty then .help else .verbUnknown

/-- What becomes of a level that no verb ends. -/
def endOfLevel (v : Verb) (settings : List Setting) : Except Usage Unit :=
  if v.followers.isEmpty then .ok ()
  else if settings.isEmpty then .error .nothing
  else .error .verbMissing

/-! ## Levels -/

/-- The verb at the end of a command line, and the settings at each level, the outermost first. -/
structure Levels where
  verb : Verb
  settings : List (List Setting)
  deriving DecidableEq, Repr

/-- Reads a level from a word on, and the levels behind it. -/
def readLevel (env : Environment) (path : List Verb) (v : Verb) (l : Level) :
    List String → Except Usage Levels
  | [] => do
    let settings ← l.finish env
    endOfLevel v settings
    return ⟨v, [settings]⟩
  | word :: rest =>
    if !l.awaitsValue && v.isHelp word then .error (helpOn v rest)
    else
      match if l.awaitsValue then none else v.follower? word, word.toList with
      | some w, _ => do
        let inner ← readLevel env (path ++ [w]) w {} rest
        let settings ← l.finish env
        return { inner with settings := settings :: inner.settings }
      | none, ['-', '-'] =>
        match rest with
        | [] => do
          let settings ← l.finish env
          endOfLevel v settings
          return ⟨v, [settings]⟩
        | stray :: _ => .error (strayWord v true stray)
      | none, '-' :: '-' :: long => do readLevel env path v (← readLong path v l long) rest
      | none, '-' :: c :: letters => do
        readLevel env path v (← readShort path v l (c :: letters)) rest
      | none, _ =>
        if l.awaitsValue then readLevel env path v (l.take word) rest
        else .error (strayWord v false word)

/-! ## Invocations -/

def stronger (outer : Option Setting) (inner : Option Setting) : Option Setting :=
  match outer, inner with
  | some a, some b => if a.source = .commandLine ∧ b.source = .environment then some a else some b
  | a, none => a
  | none, b => b

def Levels.value? (ls : Levels) (s : Switch) : Option String :=
  (ls.settings.foldl (fun found level => stronger found (level.find? (·.switch == s))) none).map
    (·.value)

def Levels.isOn (ls : Levels) (s : Switch) : Bool :=
  ((ls.value? s).bind Switch.decision?).getD false

def Levels.command (ls : Levels) : Except Usage Command :=
  match ls.verb with
  | .register => .ok .register
  | .activate => .ok .activate
  | .deactivate => .ok .deactivate
  | .status => .ok .status
  | .version => .ok (.version (ls.isOn .check))
  | .configShow => .ok .showSettings
  | .configPath => .ok .showPaths
  | .configValidate => .ok .checkSettings
  | .root => .error .verbMissing
  | .config => .error .verbMissing

def ofLevels (ls : Levels) : Except Usage Invocation := do
  let command ← ls.command
  return {
    command
    settingsPath := (ls.value? .config).getD Settings.standardPath
    override := ⟨ls.value? .coordinatorUrl, ls.value? .apiKey, ls.value? .address⟩
    form := ((ls.value? .output).bind Output.Form.ofName?).getD .pretty
    skipsReleaseCheck := ls.isOn .skipVersionCheck
    isVerbose := ls.isOn .verbose
    isColorless := ls.isOn .noColor }

/-- Reads a command line, without the name of the program in front. -/
def read (env : Environment) (words : List String) : Except Usage Invocation := do
  ofLevels (← readLevel env [.root] .root {} words)

end Enrollment.Invocation
