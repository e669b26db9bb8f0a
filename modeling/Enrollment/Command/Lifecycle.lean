import Enrollment.Command.Session
/-!
# Commands on the life of a node

Registering, activating and deactivating a node and reporting on it. Settings are looked at before
anything is asked of the host, and the latest release before the coordinator is asked.
-/

namespace Enrollment.Command

open Lifecycle (RegisterOutcome ActivateOutcome DeactivateOutcome StatusReport)

/-! ## What is shown -/

/-- What a user is told about the cooldown of a new registration. -/
def cooldownLines (s : Session) (r : Registration.Receipt) : List String :=
  if r.cooldown = 0 then []
  else
    let ready := match r.registeredAt.addSeconds? r.cooldown.toNat with
      | some t => t.shown
      | none => "-"
    [s.labelled "  " "Cooldown:"
      (durationText r.cooldown.toNat ++ " (activate after " ++ ready ++ ")")]

/-- What a user is told about a registration. -/
def registerLines (s : Session) : RegisterOutcome → List String
  | .registered r =>
    [s.aboutNode s.success r.address " registered.",
      s.labelled "  " "Registration:" r.registrationId,
      s.labelled "  " "Registered at:" r.registeredAt.shown] ++
    cooldownLines s r ++
    ["", "Run " ++ s.paint (.colored .cyan) "infernet-node activate" ++
      " once the cooldown has passed."]
  | .alreadyRegistered e =>
    s.aboutNode s.notice e.address " is already registered." ::
      (e.activatableAt?.map fun t => s.labelled "  " "Activatable at:" t.shown).toList
  | .alreadyActive e => [s.aboutNode s.notice e.address " is already active."]

/-- What a user is told about an activation. -/
def activateLines (s : Session) : ActivateOutcome → List String
  | .activated r =>
    [s.aboutNode s.success r.address " activated.",
      s.labelled "  " "Activated at:" r.activatedAt.shown]
  | .alreadyActive e => [s.aboutNode s.notice e.address " is already active."]

/-- What a user is told about a deactivation. -/
def deactivateLines (s : Session) (l : Lifecycle) (o : DeactivateOutcome) : List String :=
  let line := match o with
    | .deactivated e => s.aboutNode s.success e.address " deactivated."
    | .alreadyInactive => s.aboutNode s.notice l.address " is not registered."
  line :: if s.isVerbose then [s.labelled "  " "Cleared:" l.recordPath] else []

def statusColor : Node.Status → Output.Color
  | .active => .green
  | .registered => .yellow
  | .inactive => .red

/-- What a user is told about what is left of a cooldown. -/
def remainingLine (s : Session) (seconds : Nat) : String :=
  s.labelled "  " "Cooldown:" (
    if seconds = 0 then s.paint (.colored .green) "elapsed, ready to activate"
    else durationText seconds ++ " remaining")

/-- What a user is told about the record. -/
def recordLines (s : Session) (l : Lifecycle) : Option Registration.Record → List String
  | none => [s.labelled "  " "Local record:" (s.paint .weak "(none)")]
  | some r =>
    [s.labelled "  " "Local record:" l.recordPath,
      s.labelled "    " "Coordinator:" r.coordinatorUrl,
      s.labelled "    " "Registered at:" r.registeredAt.shown] ++
    (r.activatedAt.map fun t => s.labelled "    " "Activated at:" t.shown).toList

/-- What a user is told about a node. -/
def statusLines (s : Session) (l : Lifecycle) (r : StatusReport) : List String :=
  let e := r.entry
  [s.paint .heading "Node Status", "",
    s.labelled "  " "Address:" e.address.text,
    s.labelled "  " "Status:" (s.paint (.colored (statusColor e.status)) e.status.name)] ++
  (e.registrationId.map (s.labelled "  " "Registration:")).toList ++
  (if e.status = .registered then [remainingLine s r.cooldownRemaining] else []) ++
  "" :: recordLines s l r.record

/-- What a user is told about an activation that failed. -/
def activationTrouble : Failure → Trouble
  | .notRegistered address =>
    ⟨"Node " ++ address ++ " is not registered.\n\nRun \x60infernet-node register\x60 first, " ++
      "then activate after the cooldown.", []⟩
  | .cooldownPending remaining =>
    ⟨"Cooldown still pending: activation possible in " ++ durationText remaining, []⟩
  | f => f.toTrouble

/-! ## The commands -/

/-- The life of the node over a connection, behind a look at releases if that is wanted. -/
def start (s : Session) (looksForRelease : Bool) : Task (Client.Connection × Lifecycle) := do
  let c ← Task.ofExcept s.connection
  if looksForRelease then Task.lift (s.checkRelease c)
  let l ← Task.ofExcept (s.lifecycle c)
  return (c, l)

def outcome {α : Type} (c : Client.Connection) (l : Lifecycle) (act : Lifecycle.Act α) :
    Plan Host (Except Failure α) :=
  Host.onLifecycle c ⟨l.recordPath⟩ act

def runRegister (s : Session) : Task Unit := do
  let (c, l) ← start s true
  let o ← Task.attempt (outcome c l l.register)
  Task.lift (s.present o.encode (registerLines s o))

def runActivate (s : Session) : Task Unit := do
  let (c, l) ← start s true
  match ← Task.lift (outcome c l l.activate) with
  | .error f => throw (activationTrouble f)
  | .ok o => Task.lift (s.present o.encode (activateLines s o))

def runDeactivate (s : Session) : Task Unit := do
  let (c, l) ← start s false
  let o ← Task.attempt (outcome c l l.deactivate)
  Task.lift (s.present o.encode (deactivateLines s l o))

def runStatus (s : Session) : Task Unit := do
  let (c, l) ← start s false
  let r ← Task.attempt (outcome c l l.status)
  Task.lift (s.present r.encode (statusLines s l r))

end Enrollment.Command
