import Enrollment.Client.Retry
import Enrollment.Http.Message
import Enrollment.Log.Event
import Enrollment.Plan
/-!
# The wire

What a client asks of its surroundings: to send a request, to wait, and to note what happens.
-/

namespace Enrollment.Client

/-- A question of a client. -/
inductive WireRequest
  | send (r : Http.Request) (timeout : Span)
  | wait (s : Span)
  | note (e : Log.Event)

@[reducible] def WireRequest.Answer : WireRequest → Type
  | send _ _ => Http.Outcome
  | wait _ => Unit
  | note _ => Unit

abbrev Wire : Interface where
  Request := WireRequest
  Answer := WireRequest.Answer

namespace Wire

def send (r : Http.Request) (timeout : Span) : Plan Wire Http.Outcome :=
  Plan.request (I := Wire) (.send r timeout)

def wait (s : Span) : Plan Wire Unit :=
  Plan.request (I := Wire) (.wait s)

def note (level : Log.Level) (message : String) (fields : List (String × String) := []) :
    Plan Wire Unit :=
  Plan.request (I := Wire) (.note ⟨level, message, fields⟩)

end Wire

end Enrollment.Client
