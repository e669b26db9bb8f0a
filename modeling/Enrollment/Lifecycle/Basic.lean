import Enrollment.Failure
import Enrollment.Log.Event
import Enrollment.Node.Image
import Enrollment.Plan
import Enrollment.Registration.Basic
/-!
# The life of a node

A node is registered, activated and deactivated by asking its coordinator, and a record of the
registration is kept. This module says what may be asked and what comes of each operation; the
operations are in `Enrollment.Lifecycle.Operations`.
-/

namespace Enrollment

open Registration (Record)

/-- A question of an operation: to the coordinator, to the keeper of the record, to the clock. -/
inductive Lifecycle.Step
  | entryOf (address : Address)
  | register (request : Registration.Request)
  | activate (address : Address) (request : Activation.Request)
  | deactivate (address : Address)
  | load
  | save (record : Record)
  | clear
  | now
  | note (e : Log.Event)

@[reducible] def Lifecycle.Step.Answer : Lifecycle.Step → Type
  | entryOf _ => Except Failure Node.Entry
  | register _ => Except Failure Registration.Receipt
  | activate _ _ => Except Failure Activation.Receipt
  | deactivate _ => Except Failure Node.Entry
  | load => Except Failure (Option Record)
  | save _ => Except Failure Unit
  | clear => Except Failure Unit
  | now => Instant
  | note _ => Unit

abbrev Lifecycle.Surroundings : Interface where
  Request := Lifecycle.Step
  Answer := Lifecycle.Step.Answer

/-- A node whose life is looked after. -/
structure Lifecycle where
  address : Address
  paymentAddress : Option Address := none
  containers : List String := []
  version : String := buildVersion
  coordinatorUrl : String
  recordPath : String
  deriving DecidableEq

namespace Lifecycle

/-- A computation of a lifecycle, which may fail. -/
abbrev Act := ExceptT Failure (Plan Surroundings)

namespace Act

def entryOf (address : Address) : Act Node.Entry :=
  ExceptT.mk (Plan.request (I := Surroundings) (.entryOf address))

def register (request : Registration.Request) : Act Registration.Receipt :=
  ExceptT.mk (Plan.request (I := Surroundings) (.register request))

def activate (address : Address) (request : Activation.Request) : Act Activation.Receipt :=
  ExceptT.mk (Plan.request (I := Surroundings) (.activate address request))

def deactivate (address : Address) : Act Node.Entry :=
  ExceptT.mk (Plan.request (I := Surroundings) (.deactivate address))

def load : Act (Option Record) :=
  ExceptT.mk (Plan.request (I := Surroundings) .load)

def save (record : Record) : Act Unit :=
  ExceptT.mk (Plan.request (I := Surroundings) (.save record))

def clear : Act Unit :=
  ExceptT.mk (Plan.request (I := Surroundings) .clear)

def now : Act Instant :=
  ExceptT.lift (Plan.request (I := Surroundings) .now)

def note (level : Log.Level) (message : String) (fields : List (String × String) := []) :
    Act Unit :=
  ExceptT.lift (Plan.request (I := Surroundings) (.note ⟨level, message, fields⟩))

def ofExcept {α : Type} : Except Failure α → Act α
  | .ok a => pure a
  | .error f => throw f

end Act

/-! ## Outcomes -/

/-- What came of registering a node. -/
inductive RegisterOutcome
  | registered (receipt : Registration.Receipt)
  | alreadyRegistered (entry : Node.Entry)
  | alreadyActive (entry : Node.Entry)
  deriving DecidableEq

/-- What came of activating a node. -/
inductive ActivateOutcome
  | activated (receipt : Activation.Receipt)
  | alreadyActive (entry : Node.Entry)
  deriving DecidableEq

inductive DeactivateOutcome
  | deactivated (entry : Node.Entry)
  | alreadyInactive
  deriving DecidableEq

/-- What the coordinator and the record say about a node. -/
structure StatusReport where
  entry : Node.Entry
  record : Option Record
  cooldownRemaining : Nat
  deriving DecidableEq

/-- An outcome with a name and, as far as there are any, details. -/
def outcomeDocument (name : String) (details : Option Document.Value) : Document.Value :=
  .record (("outcome", .text name) :: (details.map fun d => ("details", d)).toList)

def RegisterOutcome.encode : RegisterOutcome → Document.Value
  | registered receipt =>
    outcomeDocument "registered" (some (Registration.Receipt.codec.encode receipt))
  | alreadyRegistered entry =>
    outcomeDocument "already_registered" (some (Node.Entry.codec.encode entry))
  | alreadyActive entry =>
    outcomeDocument "already_active" (some (Node.Entry.codec.encode entry))

def ActivateOutcome.encode : ActivateOutcome → Document.Value
  | activated receipt =>
    outcomeDocument "activated" (some (Activation.Receipt.codec.encode receipt))
  | alreadyActive entry =>
    outcomeDocument "already_active" (some (Node.Entry.codec.encode entry))

def DeactivateOutcome.encode : DeactivateOutcome → Document.Value
  | deactivated entry => outcomeDocument "deactivated" (some (Node.Entry.codec.encode entry))
  | alreadyInactive => outcomeDocument "already_inactive" none

def StatusReport.encode (r : StatusReport) : Document.Value :=
  .record [("info", Node.Entry.codec.encode r.entry),
    ("record", (Document.Codec.optional Record.codec).encode r.record),
    ("cooldown_remaining_secs", .natural r.cooldownRemaining)]

end Lifecycle

end Enrollment
