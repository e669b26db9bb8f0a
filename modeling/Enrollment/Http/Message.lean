import Enrollment.Text.Blank
import Enrollment.Text.Utf8
import Enrollment.Url.Basic
/-!
# Requests and answers

What is sent to a server, and what may come of it.

Main statement: the success codes are the two hundreds (`Response.isSuccess_iff`).
-/

namespace Enrollment.Http

open Text (Bytes)

/-- What is done with a resource. -/
inductive Method
  | get
  | post
  deriving DecidableEq, Repr

def Method.name : Method → String
  | get => "GET"
  | post => "POST"

structure Request where
  method : Method
  url : Url
  authorization : Option String
  userAgent : String
  body : Option String
  deriving DecidableEq, Repr

/-- The kind of document that is sent along. -/
def Request.contentType? (r : Request) : Option String :=
  r.body.map fun _ => "application/json"

/-! ## Targets -/

/-- How many characters the URL of a request may have, all of which are ASCII. -/
def targetLimit : Nat := 65534

/-- Whether a character of a host may stand in a request. The others that a host may have may not. -/
def inTarget (c : Char) : Bool :=
  c ∉ ['"', '\x60', '\x7b', '\x7d']

/-- Whether a request may be sent to a URL. -/
def isTarget (u : Url) : Bool :=
  u.isWeb && u.chars.length ≤ targetLimit && u.authority.all fun a => a.host.text.all inTarget

/-! ## Answers -/

structure Response where
  status : Nat
  headers : List (String × String)
  /-- The body; none if it ends too early. -/
  body : Option Bytes
  deriving DecidableEq, Repr

def Response.isSuccess (r : Response) : Bool :=
  200 ≤ r.status && r.status < 300

theorem Response.isSuccess_iff (r : Response) :
    r.isSuccess = true ↔ 200 ≤ r.status ∧ r.status < 300 := by
  simp [isSuccess]

/-- An answer as it arrives: some codes never come with a body. -/
def Response.arriving (r : Response) : Response :=
  if r.status = 204 ∨ r.status = 304 then { r with body := some [] } else r

/-- The text of the body, with replacement characters for what is no text. -/
def Response.text? (r : Response) : Option String :=
  r.body.map fun bytes => String.ofList (Text.decodeLenient bytes)

/-- The first header of a name, in whatever case. -/
def Response.header? (r : Response) (name : String) : Option String :=
  (r.headers.find? fun h => h.1.map Char.toLower == name.map Char.toLower).map (·.2)

/-- What comes in the way of a client that was sent on by an answer. -/
inductive Obstacle
  | unreachable
  | closed
  | endless
  | foreign
  deriving DecidableEq, Repr

/-- What comes of a request, and of those that its answers lead to. -/
inductive Outcome
  | answered (r : Response)
  | unreachable
  | closed
  | timedOut
  | astray (obstacle : Obstacle) (url : Url)
  deriving DecidableEq, Repr

/-- Whether a text may stand in a header: no control characters but tabs. -/
def isHeaderValue (s : String) : Bool :=
  s.toList.all fun c => (0x20 ≤ c.toNat && c.toNat != 0x7f) || c == '\t'

/-- A header value as it arrives: without blanks and tabs at both ends. -/
def arriving (s : String) : String :=
  let isEdge (c : Char) : Bool := c == ' ' || c == '\t'
  String.ofList ((s.toList.dropWhile isEdge).reverse.dropWhile isEdge).reverse

end Enrollment.Http
