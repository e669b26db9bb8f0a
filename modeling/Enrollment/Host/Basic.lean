import Enrollment.Client.Nodes
import Enrollment.Files.Request
import Enrollment.Lifecycle.Operations
import Enrollment.Registration.Store
/-!
# The host

All that a command asks of the machine it runs on: its disk, its network, its clock and its
output. The operations of a lifecycle are carried out on a host over a connection and a store.

Main statement: a plan over the disk runs on a host as it does on the disk alone (`run_onDisk`).
-/

namespace Enrollment

open Client (Connection Wire WireRequest)
open Files (Disk)

inductive Host.Step
  | disk (s : Files.Step)
  | wire (r : WireRequest)
  | now
  | note (e : Log.Event)
  | print (s : String)

@[reducible] def Host.Step.Answer : Host.Step → Type
  | disk s => s.Answer
  | wire r => r.Answer
  | now => Instant
  | note _ => Unit
  | print _ => Unit

abbrev Host : Interface where
  Request := Host.Step
  Answer := Host.Step.Answer

namespace Host

def onDisk {α : Type} (p : Plan Disk α) : Plan Host α :=
  p.implementBy fun s => Plan.request (I := Host) (.disk s)

def onWire {α : Type} (p : Plan Wire α) : Plan Host α :=
  p.implementBy fun r => Plan.request (I := Host) (.wire r)

def now : Plan Host Instant :=
  Plan.request (I := Host) .now

def print (s : String) : Plan Host Unit :=
  Plan.request (I := Host) (.print s)

def note (e : Log.Event) : Plan Host Unit :=
  Plan.request (I := Host) (.note e)

/-- One question of a lifecycle, put to the coordinator and the store. -/
def lifecycleStep (c : Connection) (store : Registration.Store) :
    (s : Lifecycle.Step) → Plan Host s.Answer
  | .entryOf address => onWire (c.entryOf address)
  | .register request => onWire (c.register request)
  | .activate address request => onWire (c.activate address request)
  | .deactivate address => onWire (c.deactivate address)
  | .load => onDisk store.load
  | .save record => onDisk (store.save record)
  | .clear => onDisk store.clear
  | .now => now
  | .note e => note e

/-- An operation of a lifecycle over a connection and a store. -/
def onLifecycle {α : Type} (c : Connection) (store : Registration.Store)
    (act : Lifecycle.Act α) : Plan Host (Except Failure α) :=
  act.run.implementBy (lifecycleStep c store)

theorem run_onDisk {α σ : Type} (answer : (s : Host.Request) → σ → Host.Answer s × σ) (p : Plan Disk α)
    (w : σ) :
    (onDisk p).run answer w = p.run (fun s w => answer (.disk s) w) w :=
  Plan.run_implementBy _ answer p w

end Host

end Enrollment
