import Enrollment.Client.Refusal
import Enrollment.Client.Wire
import Enrollment.Json.Printer
import Enrollment.Node.Image
import Enrollment.Text.Base64
import Enrollment.Text.Quoted
import Enrollment.Url.Parser
/-!
# Connections to a coordinator

Sending requests to one coordinator, and making sense of what comes back. What failed in a way that
may pass is sent again (`Retry.isWorthRetrying`, `execute`).
-/

namespace Enrollment.Client

open Document (Codec)

def userAgent : String := "infernet-node/" ++ buildVersion

structure Connection where
  /-- Where the coordinator is, without slashes at the end. -/
  baseUrl : String
  apiKey : Option String := none
  timeout : Span := .ofSeconds 30
  retry : Retry := {}
  deriving DecidableEq, Repr

/-- A text without the slashes at its end. -/
def withoutTrailingSlashes (s : String) : String :=
  String.ofList (s.toList.reverse.dropWhile (· == '/')).reverse

/-- A URL of the web, or why it is none. -/
def checkWebUrl (url : String) : Except Failure Url :=
  match Url.parse url with
  | .error fault => .error (.invalidUrl (url ++ ": " ++ fault.message))
  | .ok u =>
    if u.isWeb then .ok u else .error (.invalidUrl (url ++ ": scheme must be http or https"))

def connect (baseUrl : String) (apiKey : Option String := none)
    (timeout : Span := .ofSeconds 30) (retry : Retry := {}) : Except Failure Connection := do
  let _ ← checkWebUrl baseUrl
  return ⟨withoutTrailingSlashes baseUrl, apiKey, timeout, retry⟩

namespace Connection

/-- A connection in words, without the token. -/
def description (c : Connection) : String :=
  "CoordinatorClient \x7b base_url: " ++ Text.quoted c.baseUrl ++ ", authenticated: " ++
    (if c.apiKey.isSome then "true" else "false") ++ ", .. \x7d"

/-- The URL of a resource of the coordinator. -/
def urlOf (c : Connection) (path : String) : String :=
  c.baseUrl ++ path

end Connection

/-! ## Requests -/

/-- The bytes of a user and a password in front of a host, if there are any. -/
def credentialsOf (u : Url) : Option Text.Bytes := do
  let a ← u.authority
  let username := Url.Percent.decode (Text.encodeUtf8 a.username)
  let password := Url.Percent.decode (Text.encodeUtf8 a.password)
  if a.username.isEmpty && a.password.isEmpty then none
  else if (Text.decodeUtf8? username).isNone then none
  else
    let password := if (Text.decodeUtf8? password).isNone then [] else password
    some (username ++ 0x3a :: password)

/-- The URL that is asked for. A user who can be told by a header is not left in it. -/
def askedUrl (u : Url) : Url :=
  if (credentialsOf u).isSome then u.withoutCredentials else u

/-- Makes a request of its parts. What proves that it may be done is the user in its URL, else the
token. -/
def makeRequest (method : Http.Method) (url : String) (apiKey : Option String)
    (body : Option String) : Except Failure Http.Request :=
  match Url.parse url with
  | .error _ => .error (.transport "builder error")
  | .ok u =>
    let bearer := apiKey.map fun key => "Bearer " ++ key
    if !(bearer.all Http.isHeaderValue) then .error (.transport "builder error")
    else
      let basic := (credentialsOf u).map fun bytes => "Basic " ++ String.ofList (Text.base64 bytes)
      let asked := askedUrl u
      if Http.isTarget asked then .ok ⟨method, asked, basic.or bearer, userAgent, body⟩
      else .error (.transport ("builder error for url (" ++ asked.text ++ ")"))

/-! ## Answers -/

/-- The wording of a request that did not get through. -/
def unsent (url : Url) : String :=
  "error sending request for url (" ++ url.text ++ ")"

def failureWithoutAnswer (r : Http.Request) (timeout : Span) : Http.Outcome → Failure
  | .timedOut => .timedOut timeout.seconds
  | .unreachable => .unreachable (unsent r.url)
  | .astray .unreachable url => .unreachable (unsent url)
  | .astray .closed url => .transport (unsent url)
  | .astray .endless url => .transport ("error following redirect for url (" ++ url.text ++ ")")
  | .astray .foreign url => .transport ("builder error for url (" ++ url.text ++ ")")
  | _ => .transport (unsent r.url)

/-- The body of an answer, or what the answer means if it is not a success. -/
def bodyOf (r : Http.Response) : Plan Wire (Except Failure String) := do
  if r.isSuccess then
    match r.text? with
    | some body => return .ok body
    | none => return .error (.transport "error decoding response body")
  else
    if r.status = 429 then
      Wire.note .warn "Rate limited by coordinator"
        [("retry_after", Failure.secondsHint (retryAfter? r))]
    return .error (failureOf r)

/-- Sends a request once. If answers send the client on, what comes of it is what comes of the last request
on the way. -/
def sendOnce (timeout : Span) (made : Except Failure Http.Request) :
    Plan Wire (Except Failure String) := do
  match made with
  | .error f => return .error f
  | .ok r =>
    match ← Wire.send r timeout with
    | .answered response => bodyOf response
    | outcome => return .error (failureWithoutAnswer r timeout outcome)

/-- Whether the same request may succeed when it is sent again, as far as sending again is wanted. -/
def Retry.isWorthRetrying (retry : Retry) (f : Failure) : Bool :=
  match f with
  | .rateLimited _ => retry.onRateLimit
  | f => f.isRetryable

/-- How long to wait behind an attempt that failed. -/
def Retry.delay (retry : Retry) (attempt : Nat) (f : Failure) : Span :=
  match f with
  | .rateLimited (some seconds) => (Span.ofSeconds seconds).shorter retry.maxBackoff
  | _ => retry.backoff attempt

/-- Does something, and does it again, at most as often as is said, while it fails in a way that
may pass. -/
def execute {α : Type} (retry : Retry) (once : Plan Wire (Except Failure α)) :
    Nat → Nat → Plan Wire (Except Failure α)
  | 0, _ => once
  | left + 1, attempt => do
    match ← once with
    | .ok a => return .ok a
    | .error f =>
      if retry.isWorthRetrying f then
        let delay := retry.delay attempt f
        Wire.note .warn "Retrying coordinator request" [
          ("error", f.message),
          ("attempt", Text.decimal (attempt + 1)),
          ("max_retries", Text.decimal retry.maxRetries.toNat),
          ("delay_ms", Text.decimal (saturated delay.millis))]
        Wire.wait delay
        execute retry once left (attempt + 1)
      else return .error f

def decodeBody {α : Type} (codec : Codec α) (body : Except Failure String) : Except Failure α :=
  match body with
  | .error f => .error f
  | .ok body =>
    match Json.decode codec body with
    | .ok a => .ok a
    | .error fault => .error (.document fault)

namespace Connection

/-- Sends a request to the coordinator, and again where that may help, and reads the answer. -/
def exchange {α : Type} (c : Connection) (codec : Codec α) (made : Except Failure Http.Request) :
    Plan Wire (Except Failure α) :=
  execute c.retry (do return decodeBody codec (← sendOnce c.timeout made))
    c.retry.maxRetries.toNat 0

/-- Asks for a resource of the coordinator. -/
def get {α : Type} (c : Connection) (codec : Codec α) (path : String) :
    Plan Wire (Except Failure α) := do
  let url := c.urlOf path
  Wire.note .debug "GET request" [("url", url)]
  c.exchange codec (makeRequest .get url c.apiKey none)

/-- Sends a document to a resource of the coordinator. -/
def post {α : Type} (c : Connection) (codec : Codec α) (path : String) (body : Document.Value) :
    Plan Wire (Except Failure α) := do
  let url := c.urlOf path
  Wire.note .debug "POST request" [("url", url)]
  c.exchange codec (makeRequest .post url c.apiKey (some (Json.compact body)))

/-- Asks for a text anywhere, once and without the token. -/
def getText (c : Connection) (url : String) : Plan Wire (Except Failure String) := do
  Wire.note .debug "GET text request" [("url", url)]
  sendOnce c.timeout (makeRequest .get url none none)

end Connection

end Enrollment.Client
