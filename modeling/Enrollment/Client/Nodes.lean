import Enrollment.Client.Connection
import Enrollment.Registration.Basic
/-!
# The nodes of a coordinator

What can be asked of a coordinator about a node: what it knows of it, and to register, activate
and deactivate it. A node that the coordinator does not know is inactive.
-/

namespace Enrollment.Client.Connection

def nodesPath : String := "/api/v1/nodes"

def nodePath (address : Address) : String :=
  nodesPath ++ "/" ++ address.text

def entryOf (c : Connection) (address : Address) : Plan Wire (Except Failure Node.Entry) := do
  match ← c.get Node.Entry.codec (nodePath address) with
  | .error (.notFound _) => do
    Wire.note .debug "Node unknown to coordinator"
    return .ok (.unknown address)
  | result => return result

def register (c : Connection) (request : Registration.Request) :
    Plan Wire (Except Failure Registration.Receipt) :=
  c.post Registration.Receipt.codec nodesPath (Registration.Request.codec.encode request)

def activate (c : Connection) (address : Address) (request : Activation.Request) :
    Plan Wire (Except Failure Activation.Receipt) :=
  c.post Activation.Receipt.codec (nodePath address ++ "/activate")
    (Activation.Request.codec.encode request)

def deactivate (c : Connection) (address : Address) : Plan Wire (Except Failure Node.Entry) :=
  c.post Node.Entry.codec (nodePath address ++ "/deactivate") (.record [])

end Enrollment.Client.Connection
