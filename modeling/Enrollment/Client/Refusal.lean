import Enrollment.Document.Magnitude
import Enrollment.Failure
import Enrollment.Http.Message
import Enrollment.Json.Reader
/-!
# Refusals

What an answer that is not a success means. The reason is the text that the body has under the key
`error`, if the body is a document with one, and otherwise the body itself.

Main statement: a refusal has the status code of its answer, or that of its class
(`failureOf_statusCode?`).
-/

namespace Enrollment.Client

open Document (Tree wordLimit)

/-! ## Documents that are taken at their word -/

mutual

/-- Whether a tree is the whole of a document that is nested at most as deep as is said. -/
def isDocument (depth : Nat) : Tree → Bool
  | .null => true
  | .boolean _ => true
  | .numeral n => n.isHeld
  | .text s => s.isSome
  | .list items ending => depth != 0 && ending == .closed && areDocuments (depth - 1) items
  | .record members ending =>
    depth != 0 && ending == .closed && membersAreDocuments (depth - 1) members
  | .broken => false

def areDocuments (depth : Nat) : List Tree → Bool
  | [] => true
  | t :: rest => isDocument depth t && areDocuments depth rest

def membersAreDocuments (depth : Nat) : List (Option String × Tree) → Bool
  | [] => true
  | (key, t) :: rest => key.isSome && isDocument depth t && membersAreDocuments depth rest

end

/-- How deep a document may be nested. -/
def depthLimit : Nat := 127

/-! ## Reasons -/

/-- The last text that a record has under a key; none if the last value under it is no text. -/
def lastText? (key : String) (members : List (Option String × Tree)) : Option String :=
  match members.reverse.find? fun m => m.1 == some key with
  | some (_, .text s) => s
  | _ => none

/-- The reason that the body of a refusal gives. -/
def reasonOf (body : String) : String :=
  match Json.read body with
  | (.record members ending, true) =>
    if isDocument depthLimit (.record members ending) then (lastText? "error" members).getD body
    else body
  | _ => body

/-- The seconds that a header says to wait: a natural of 64 bits, with or without a plus, between
blanks. -/
def secondsOf (header : String) : Option Nat :=
  if header.toList.all fun c => (0x20 ≤ c.toNat && c.toNat < 0x7f) || c == '\t' then
    let digits := match Text.trim header.toList with
      | '+' :: digits => digits
      | digits => digits
    match Text.ofDecimal? digits with
    | some n => if n ≤ wordLimit then some n else none
    | none => none
  else none

/-- The seconds that an answer says to wait. -/
def retryAfter? (r : Http.Response) : Option Nat :=
  (r.header? "retry-after").bind secondsOf

/-- What an answer that is not a success means. -/
def failureOf (r : Http.Response) : Failure :=
  let reason := reasonOf (r.text?.getD "")
  match r.status with
  | 401 => .unauthorized
  | 403 => .unauthorized
  | 404 => .notFound reason
  | 409 => .rejected reason
  | 422 => .rejected reason
  | 429 => .rateLimited (retryAfter? r)
  | status => .unexpected status reason

theorem failureOf_statusCode? (r : Http.Response) :
    (failureOf r).statusCode? =
      some (if r.status = 403 then 401 else if r.status = 422 then 409 else r.status) := by
  unfold failureOf
  split <;> simp_all [Failure.statusCode?]

end Enrollment.Client
