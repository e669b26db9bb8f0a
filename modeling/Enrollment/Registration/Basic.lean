import Enrollment.Node.Entry
/-!
# Registrations

What is sent to register and to activate a node, what the coordinator answers, and the record that
is kept of a registration.
-/

namespace Enrollment

open Document (Codec Layout)

namespace Registration

/-- What is sent to register a node. -/
structure Request where
  address : Address
  paymentAddress : Option Address
  version : String
  containers : List String
  deriving DecidableEq

/-- The fields of a request in a document. -/
def Request.layout : Layout Request Request :=
  (((Layout.make Request.mk).required "address" .address (·.address)).elided
    "payment_address" .address (·.paymentAddress)).required
    "version" .text (·.version) |>.defaulted
    "containers" (.listOf .text) [] (·.containers)

def Request.codec : Codec Request :=
  layout.codec

/-- What the coordinator answers when it has registered a node. -/
structure Receipt where
  address : Address
  registrationId : String
  status : Node.Status
  registeredAt : Instant
  cooldown : UInt64
  deriving DecidableEq

/-- The fields of a receipt in a document. -/
def Receipt.layout : Layout Receipt Receipt :=
  ((((Layout.make Receipt.mk).required "address" .address (·.address)).required
    "registration_id" .text (·.registrationId)).defaulted
    "status" Node.Status.codec .registered (·.status)).required
    "registered_at" .instant (·.registeredAt) |>.defaulted
    "cooldown_secs" .word64 0 (·.cooldown)

def Receipt.codec : Codec Receipt :=
  layout.codec

/-- What is kept of a registration: proof that the node was registered, and with what. -/
structure Record where
  address : Address
  registrationId : String
  coordinatorUrl : String
  registeredAt : Instant
  activatedAt : Option Instant
  deriving DecidableEq

namespace Record

/-- The fields of a record in a document. -/
def layout : Layout Record Record :=
  ((((Layout.make Record.mk).required "address" .address (·.address)).required
    "registration_id" .text (·.registrationId)).required
    "coordinator_url" .text (·.coordinatorUrl)).required
    "registered_at" .instant (·.registeredAt) |>.elided
    "activated_at" .instant (·.activatedAt)

def codec : Codec Record :=
  layout.codec

def ofReceipt (receipt : Receipt) (coordinatorUrl : String) : Record where
  address := receipt.address
  registrationId := receipt.registrationId
  coordinatorUrl
  registeredAt := receipt.registeredAt
  activatedAt := none

/-- What can be restored from the coordinator's entry, for a node that was registered elsewhere or
whose record was lost. Nothing if the entry has no identifier. -/
def restored? (entry : Node.Entry) (coordinatorUrl : String) (now : Instant) : Option Record :=
  entry.registrationId.map fun registrationId =>
    { address := entry.address
      registrationId
      coordinatorUrl
      registeredAt := entry.cooldownStart.getD now
      activatedAt := if entry.status = .active then some now else none }

def isActivated (r : Record) : Bool :=
  r.activatedAt.isSome

end Record

end Registration

namespace Activation

/-- What is sent to activate a node. -/
structure Request where
  registrationId : String
  deriving DecidableEq

/-- The fields of a request in a document. -/
def Request.layout : Layout Request Request :=
  (Layout.make Request.mk).required "registration_id" .text (·.registrationId)

def Request.codec : Codec Request :=
  layout.codec

/-- What the coordinator answers when it has activated a node. -/
structure Receipt where
  address : Address
  status : Node.Status
  activatedAt : Instant
  deriving DecidableEq

/-- The fields of a receipt in a document. -/
def Receipt.layout : Layout Receipt Receipt :=
  (((Layout.make Receipt.mk).required "address" .address (·.address)).defaulted
    "status" Node.Status.codec .active (·.status)).required
    "activated_at" .instant (·.activatedAt)

def Receipt.codec : Codec Receipt :=
  layout.codec

end Activation

end Enrollment
