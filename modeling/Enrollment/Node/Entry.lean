import Enrollment.Document.Codec
import Enrollment.Node.Status
/-!
# Entries of the coordinator

What the coordinator knows of a node: its status, the identifier of its registration, and the
cooldown between registration and activation.

Main statement: what is left of a cooldown never exceeds it (`cooldownRemaining_le`).
-/

namespace Enrollment.Node

open Document (Codec Layout)

def Status.codec : Codec Status :=
  .named name all

/-- What the coordinator knows of a node. -/
structure Entry where
  address : Address
  status : Status
  registrationId : Option String
  cooldownStart : Option Instant
  cooldown : UInt64
  deriving DecidableEq

namespace Entry

/-- The entry of a node that the coordinator does not know. -/
def unknown (address : Address) : Entry where
  address
  status := .inactive
  registrationId := none
  cooldownStart := none
  cooldown := 0

/-- The fields of an entry in a document. -/
def layout : Layout Entry Entry :=
  ((((Layout.make Entry.mk).required "address" .address (·.address)).defaulted
    "status" Status.codec .inactive (·.status)).defaulted
    "registration_id" (.optional .text) none (·.registrationId)).defaulted
    "cooldown_start" (.optional .instant) none (·.cooldownStart) |>.defaulted
    "cooldown_secs" .word64 0 (·.cooldown)

def codec : Codec Entry :=
  layout.codec

/-- How many seconds of the cooldown are left; none once it is over or if it never started. -/
def cooldownRemaining (e : Entry) (now : Instant) : Nat :=
  match e.cooldownStart with
  | none => 0
  | some start => e.cooldown.toNat - now.elapsedSeconds start

/-- The earliest instant at which the node can be activated. -/
def activatableAt? (e : Entry) : Option Instant :=
  e.cooldownStart.bind fun start => start.addSeconds? e.cooldown.toNat

theorem cooldownRemaining_le (e : Entry) (now : Instant) :
    e.cooldownRemaining now ≤ e.cooldown.toNat := by
  unfold cooldownRemaining
  split <;> omega

end Entry

end Enrollment.Node
