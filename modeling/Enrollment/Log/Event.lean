/-!
# Events

What is worth noting while something happens: a message with named fields, at a level.
-/

namespace Enrollment.Log

/-- How much an event matters. -/
inductive Level
  | trace
  | debug
  | info
  | warn
  | error
  deriving DecidableEq, Repr

def Level.name : Level → String
  | trace => "TRACE"
  | debug => "DEBUG"
  | info => "INFO"
  | warn => "WARN"
  | error => "ERROR"

/-- Something worth noting. -/
structure Event where
  level : Level
  message : String
  fields : List (String × String) := []
  deriving DecidableEq, Repr

end Enrollment.Log
