import Enrollment.Client.Connection
import Enrollment.Settings.Basic
import Enrollment.Text.Blank
/-!
# Using settings

Which settings can be used, and what they give: the addresses, the connection to the coordinator,
the identifiers of the containers.

Main statements: settings that pass give a connection and an address (`connect_of_validate`,
`nodeAddress_of_validate`).
-/

namespace Enrollment.Settings

/-! ## The coordinator -/

def Coordinator.validate (c : Coordinator) : Except Failure Unit :=
  if Text.isAllBlank c.url then
    .error (.settings "coordinator.url must be set (or INFERNET_COORDINATOR_URL)")
  else do
    let _ ← Client.checkWebUrl c.url
    if c.timeout = 0 then
      throw (.settings "coordinator.timeout_secs must be greater than zero")

def Coordinator.connect (c : Coordinator) : Except Failure Client.Connection :=
  Client.connect c.url c.apiKey (.ofSeconds c.timeout.toNat) { maxRetries := c.maxRetries }

/-! ## Addresses -/

def readAddress (s : String) : Except Failure Address :=
  (Address.parse s).mapError Address.Fault.toFailure

def nodeAddress (s : Settings) : Except Failure Address := do
  if Text.isAllBlank s.node.address then
    throw (.settings "node.address must be set (or INFERNET_NODE_ADDRESS)")
  let address ← readAddress s.node.address
  if address.isZero then
    throw (.invalidAddress "node.address must not be the zero address")
  return address

/-- Who receives the payments, if that is said. -/
def paymentAddress (s : Settings) : Except Failure (Option Address) :=
  match s.node.paymentAddress with
  | none => .ok none
  | some text => (readAddress text).map some

/-! ## Containers -/

def containerIds (s : Settings) : List String :=
  s.containers.map (·.id)

/-- Checks containers behind those with the given identifiers. -/
def checkContainers (seen : List String) : List Container → Except Failure Unit
  | [] => .ok ()
  | c :: rest =>
    if Text.isAllBlank c.id then .error (.settings "container id must not be empty")
    else if Text.isAllBlank c.image then
      .error (.settings ("container " ++ c.id ++ ": image must not be empty"))
    else if c.id ∈ seen then .error (.settings ("duplicate container id: " ++ c.id))
    else checkContainers (c.id :: seen) rest

/-! ## All settings -/

def validate (s : Settings) : Except Failure Unit := do
  s.coordinator.validate
  let _ ← s.nodeAddress
  let _ ← s.paymentAddress
  if s.log.maxFiles = 0 then
    throw (.settings "log.max_files must be greater than zero")
  checkContainers [] s.containers

theorem ok_of_bind {α β ε : Type} {x : Except ε α} {f : α → Except ε β} {b : β}
    (h : x.bind f = .ok b) : ∃ a, x = .ok a ∧ f a = .ok b := by
  cases x with
  | error e => simp [Except.bind] at h
  | ok a => exact ⟨a, rfl, h⟩

theorem coordinator_of_validate {s : Settings} (h : s.validate = .ok ()) :
    s.coordinator.validate = .ok () := by
  obtain ⟨_, ha, -⟩ := ok_of_bind h
  exact ha

theorem nodeAddress_of_validate {s : Settings} (h : s.validate = .ok ()) :
    ∃ address, s.nodeAddress = .ok address := by
  obtain ⟨_, -, h⟩ := ok_of_bind h
  obtain ⟨a, ha, -⟩ := ok_of_bind h
  exact ⟨a, ha⟩

theorem paymentAddress_of_validate {s : Settings} (h : s.validate = .ok ()) :
    ∃ address, s.paymentAddress = .ok address := by
  obtain ⟨_, -, h⟩ := ok_of_bind h
  obtain ⟨_, -, h⟩ := ok_of_bind h
  obtain ⟨a, ha, -⟩ := ok_of_bind h
  exact ⟨a, ha⟩

theorem checkWebUrl_of_validate {c : Coordinator} (h : c.validate = .ok ()) :
    ∃ u, Client.checkWebUrl c.url = .ok u := by
  unfold Coordinator.validate at h
  split at h
  · simp at h
  · obtain ⟨u, hu, -⟩ := ok_of_bind h
    exact ⟨u, hu⟩

theorem connect_of_validate {s : Settings} (h : s.validate = .ok ()) :
    ∃ connection, s.coordinator.connect = .ok connection := by
  obtain ⟨u, hu⟩ := checkWebUrl_of_validate (coordinator_of_validate h)
  simp only [Coordinator.connect, Client.connect, hu]
  exact ⟨_, rfl⟩

end Enrollment.Settings
