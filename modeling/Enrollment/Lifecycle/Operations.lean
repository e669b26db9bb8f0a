import Enrollment.Lifecycle.Basic
/-!
# The operations of a lifecycle

Registering, activating and deactivating a node, and reporting on it. Each asks the coordinator
for its entry of the node first and goes by the status it finds there; the record follows what the
coordinator says.
-/

namespace Enrollment.Lifecycle

open Registration (Record)

variable (l : Lifecycle)

/-! ## Registering -/

/-- Whether a record is the one of the registration that the coordinator reports. An entry without
an identifier is taken to mean the same registration. -/
def isRecordOf (record : Record) (entry : Node.Entry) : Bool :=
  record.address = entry.address &&
    match entry.registrationId with
    | none => true
    | some id => id = record.registrationId

/-- Brings the record in line with what the coordinator says of a registered or active node. -/
def refreshRecord (entry : Node.Entry) : Act Unit := do
  let restore : Act Unit := do
    match Record.restored? entry l.coordinatorUrl (← Act.now) with
    | some record => Act.save record
    | none =>
      Act.note .warn "Coordinator reported no registration id, local record not updated"
  match ← Act.load with
  | none => restore
  | some record =>
    if isRecordOf record entry then
      if entry.status = .active ∧ record.activatedAt = none then
        Act.save { record with activatedAt := some (← Act.now) }
    else restore

def registration : Registration.Request where
  address := l.address
  paymentAddress := l.paymentAddress
  version := l.version
  containers := l.containers

def registerInactive (entry : Node.Entry) : Act RegisterOutcome := do
  Act.ofExcept (entry.status.ensure .registered)
  let receipt ← Act.register l.registration
  if receipt.address ≠ l.address then
    throw (.internal ("coordinator registered " ++ receipt.address.text ++ ", expected " ++
      l.address.text))
  Act.save (Record.ofReceipt receipt l.coordinatorUrl)
  Act.note .info "Node registered" [
    ("registration_id", receipt.registrationId),
    ("cooldown_secs", Text.decimal receipt.cooldown.toNat),
    ("state", l.recordPath)]
  return .registered receipt

/-- Registers the node. A node that is registered or active stays so, and its record is brought in
line. -/
def register : Act RegisterOutcome := do
  let entry ← Act.entryOf l.address
  match entry.status with
  | .active =>
    Act.note .warn "Node is already active, skipping registration"
    l.refreshRecord entry
    return .alreadyActive entry
  | .registered =>
    Act.note .info "Node is already registered, awaiting activation"
    l.refreshRecord entry
    return .alreadyRegistered entry
  | .inactive => l.registerInactive entry

/-! ## Activating -/

def ownRecord : Act Record := do
  match ← Act.load with
  | none => throw (.notRegistered l.address.text)
  | some record =>
    if record.address ≠ l.address then
      throw (.settings ("registration record " ++ l.recordPath ++ " belongs to " ++
        record.address.text ++ ", but the configured node is " ++ l.address.text))
    return record

/-- Activates a node that the coordinator has as registered, once the cooldown is over. -/
def activateRegistered (record : Record) (entry : Node.Entry) : Act ActivateOutcome := do
  let remaining := entry.cooldownRemaining (← Act.now)
  if 0 < remaining then throw (.cooldownPending remaining)
  if let some id := entry.registrationId then
    if id ≠ record.registrationId then
      throw (.record ("local registration " ++ record.registrationId ++
        " does not match coordinator registration " ++ id ++ "; run \x60register\x60 again"))
  let receipt ← Act.activate l.address ⟨record.registrationId⟩
  Act.save { record with activatedAt := some receipt.activatedAt }
  Act.note .info "Node activated" [("activated_at", receipt.activatedAt.shown)]
  return .activated receipt

/-- Activates the node, which must have been registered from here. -/
def activate : Act ActivateOutcome := do
  let record ← l.ownRecord
  let entry ← Act.entryOf l.address
  match entry.status with
  | .active =>
    Act.note .warn "Node is already active"
    if record.activatedAt = none then
      Act.save { record with activatedAt := some (← Act.now) }
    return .alreadyActive entry
  | .inactive => throw (.notRegistered l.address.text)
  | .registered => l.activateRegistered record entry

/-! ## Deactivating and reporting -/

/-- Deactivates the node and forgets the record. A node that is inactive stays so. -/
def deactivate : Act DeactivateOutcome := do
  let entry ← Act.entryOf l.address
  if entry.status = .inactive then
    Act.note .info "Node is already inactive"
    Act.clear
    return .alreadyInactive
  else
    Act.ofExcept (entry.status.ensure .inactive)
    let updated ← Act.deactivate l.address
    Act.clear
    Act.note .info "Node deactivated" [("previous", entry.status.name)]
    return .deactivated updated

/-- Reports what the coordinator and the record say. -/
def status : Act StatusReport := do
  let entry ← Act.entryOf l.address
  let record ← Act.load
  match entry.status with
  | .registered => return ⟨entry, record, entry.cooldownRemaining (← Act.now)⟩
  | _ => return ⟨entry, record, 0⟩

end Enrollment.Lifecycle
