import Enrollment.Document.Fault
import Enrollment.Node.Status
/-!
# Failures

Everything that can go wrong while a node is registered, activated or inspected, with one wording
for each cause.
-/

namespace Enrollment

/-- Why an operation failed. -/
inductive Failure
  | unauthorized
  | rateLimited (retryAfter : Option Nat)
  | notFound (resource : String)
  | rejected (reason : String)
  | unexpected (code : Nat) (reason : String)
  | transport (reason : String)
  | timedOut (seconds : Nat)
  | unreachable (reason : String)
  | document (fault : Document.Fault)
  | invalidAddress (reason : String)
  | invalidUrl (reason : String)
  | settings (reason : String)
  | record (reason : String)
  | notRegistered (address : String)
  | cooldownPending (remaining : Nat)
  | invalidTransition (source target : Node.Status)
  | release (reason : String)
  | internal (reason : String)
  deriving DecidableEq, Repr

namespace Failure

/-- The wording of a number of seconds that may be unknown. -/
def secondsHint : Option Nat → String
  | some n => "Some(" ++ Text.decimal n ++ ")"
  | none => "None"

def message : Failure → String
  | unauthorized => "authentication failed: coordinator rejected credentials"
  | rateLimited retryAfter =>
    "rate limit exceeded, retry after " ++ secondsHint retryAfter ++ " seconds"
  | notFound resource => "resource not found: " ++ resource
  | rejected reason => "coordinator rejected request: " ++ reason
  | unexpected code reason => "coordinator error (" ++ Text.decimal code ++ "): " ++ reason
  | transport reason => "HTTP request failed: " ++ reason
  | timedOut seconds => "request timed out after " ++ Text.decimal seconds ++ " seconds"
  | unreachable reason => "connection failed: " ++ reason
  | document fault => "JSON error: " ++ fault.message
  | invalidAddress reason => "invalid address: " ++ reason
  | invalidUrl reason => "invalid URL: " ++ reason
  | settings reason => "configuration error: " ++ reason
  | record reason => "state error: " ++ reason
  | notRegistered address => "node " ++ address ++ " is not registered; run \x60register\x60 first"
  | cooldownPending remaining =>
    "registration cooldown still pending, " ++ Text.decimal remaining ++ " seconds remaining"
  | invalidTransition source target =>
    "invalid status transition: " ++ source.name ++ " -> " ++ target.name
  | release reason => "version check failed: " ++ reason
  | internal reason => "internal error: " ++ reason

instance : ToString Failure := ⟨message⟩

/-- Whether the same request may succeed when it is sent again. -/
def isRetryable : Failure → Bool
  | rateLimited _ => true
  | timedOut _ => true
  | unreachable _ => true
  | _ => false

def isUnauthorized : Failure → Bool
  | unauthorized => true
  | _ => false

/-- The status code of the answer that a failure stands for. -/
def statusCode? : Failure → Option Nat
  | unauthorized => some 401
  | rateLimited _ => some 429
  | notFound _ => some 404
  | rejected _ => some 409
  | unexpected code _ => some code
  | _ => none

def cause? : Failure → Option String
  | document fault => some fault.message
  | _ => none

end Failure

/-- A fault in a text that should be an address, as a failure. -/
def Address.Fault.toFailure (fault : Address.Fault) : Failure :=
  .invalidAddress fault.message

namespace Node.Status

/-- Succeeds if a node may go from one status to another. -/
def ensure (source target : Status) : Except Failure Unit :=
  if source.canBecome target then .ok () else .error (.invalidTransition source target)

theorem ensure_eq_ok_iff (source target : Status) :
    source.ensure target = .ok () ↔ source.canBecome target = true := by
  simp [ensure]

end Node.Status

end Enrollment
