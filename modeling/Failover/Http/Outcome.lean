import Failover.Http.Message
import Failover.Http.RetryAfter

/-! What an attempt came to. Every response and every failed exchange has exactly one outcome, and
the outcome alone decides what the limiter learns and where the call goes next. -/
namespace Failover

/-- Why an attempt cannot be repeated. -/
inductive FatalCause where
  | status (status : Status)
  | invalidRedirect (location : String)
  | invalidRequest (reason : String)
  deriving DecidableEq, Repr

def FatalCause.text : FatalCause → String
  | .status s => "status " ++ s.text
  | .invalidRedirect location => "unusable redirect '" ++ location ++ "'"
  | .invalidRequest reason => "invalid request: " ++ reason

/-- What an attempt came to, with what it produced. -/
inductive Outcome where
  | success (response : Response)
  | transportFailure (cause : TransportError)
  | redirect (address : Url)
  | throttled (after : Option Span)
  | unavailable (after : Option Span)
  | fatal (cause : FatalCause) (response : Option Response)

/-- The kinds of outcome, and the refusal of an attempt before it began. -/
inductive Verdict where
  | success
  | transportFailure
  | redirect
  | throttled
  | unavailable
  | fatal
  | admissionRefused
  deriving DecidableEq, Repr

def Verdict.label : Verdict → String
  | .success => "success"
  | .transportFailure => "transport_failure"
  | .redirect => "redirect"
  | .throttled => "throttled"
  | .unavailable => "unavailable"
  | .fatal => "fatal"
  | .admissionRefused => "admission_refused"

namespace Outcome

def verdict : Outcome → Verdict
  | .success _ => .success
  | .transportFailure _ => .transportFailure
  | .redirect _ => .redirect
  | .throttled _ => .throttled
  | .unavailable _ => .unavailable
  | .fatal _ _ => .fatal

/-- Whether the limiter counts the attempt as a drop. -/
def isDrop : Outcome → Bool
  | .transportFailure _ | .throttled _ | .unavailable _ => true
  | _ => false

/-- Whether nothing reached the server. -/
def isLocal : Outcome → Bool
  | .fatal (.invalidRequest _) _ => true
  | _ => false

/-- The address that a response sends the caller to, against the URL that was asked; if there is a
header that gives none, its text. -/
def location? (headers : Headers) (requested : Url) : Option (Except String Url) :=
  (headers.get? "location").map fun value =>
    let address := do
      let text ← Header.valueText? value
      (requested.resolve text).toOption
    match address with
    | some u => .ok u
    | none => .error (Utf8.lenient value)

/-- The outcome of a response to a request that was sent to `requested`. -/
def ofResponse (clock : Clock) (requested : Url) (r : Response) : Outcome :=
  if r.status.isSuccess then .success r
  else if r.status.isThrottled then .throttled (RetryAfter.read? clock r.headers)
  else if r.status.isUnavailable then .unavailable (RetryAfter.read? clock r.headers)
  else if r.status.isRedirect then
    match location? r.headers requested with
    | some (.ok address) => .redirect address
    | some (.error raw) => .fatal (.invalidRedirect raw) (some r)
    | none => .fatal (.status r.status) (some r)
  else .fatal (.status r.status) (some r)

/-- The outcome of an exchange without a response. -/
def ofError : TransportError → Outcome
  | .invalidRequest reason => .fatal (.invalidRequest reason) none
  | cause => .transportFailure cause

/-- The outcome of an exchange. -/
def of (clock : Clock) (requested : Url) : Except TransportError Response → Outcome
  | .ok r => ofResponse clock requested r
  | .error e => ofError e

end Outcome
end Failover
