import Failover.Http.Status
import Failover.Http.Headers
import Failover.Http.Uri
import Failover.Time.Span

/-! Requests and responses, and the ways in which an exchange fails. A relative request names no
endpoint; put at a URL it becomes a request for the wire. -/
namespace Failover

/-- A response that has been read completely. -/
structure Response where
  status : Status
  headers : Headers
  body : List UInt8
  deriving DecidableEq, Repr

/-- Why an exchange gave no response. -/
inductive TransportError where
  | connect (reason : String)
  | io (reason : String)
  | timeout (deadline : Span)
  | invalidRequest (reason : String)
  deriving DecidableEq, Repr

def TransportError.message : TransportError → String
  | .connect reason => "connect failed: " ++ reason
  | .io reason => "io error: " ++ reason
  | .timeout deadline => "attempt timed out after " ++ deadline.text
  | .invalidRequest reason => "invalid request: " ++ reason

/-- A request as it goes over the wire. -/
structure WireRequest where
  method : String
  uri : Uri
  headers : Headers
  body : List UInt8
  deriving DecidableEq, Repr

/-- A request whose target is a path below whichever endpoint is chosen. -/
structure RelativeRequest where
  method : String
  path : String
  headers : Headers
  body : List UInt8
  deriving DecidableEq, Repr

namespace RelativeRequest

/-- The request of this method and path, with neither headers nor a body. -/
def of (method path : String) : RelativeRequest := ⟨method, path, [], []⟩

def withHeader (r : RelativeRequest) (h : Header) : RelativeRequest :=
  { r with headers := r.headers.insert h }

def withBody (r : RelativeRequest) (body : List UInt8) : RelativeRequest := { r with body }

/-- The request put at a URL. Only the target depends on the URL. -/
def sentTo (r : RelativeRequest) (u : Url) : Except TransportError WireRequest :=
  match Uri.of u with
  | .ok uri => .ok ⟨r.method, uri, r.headers, r.body⟩
  | .error e => .error (.invalidRequest e.message)

end RelativeRequest

/-- A path below a base URL: the text of the base without the slashes at its end, one slash, and the
path without the slashes at its start. -/
def target (base : Url) (path : String) : String := String.ofList (base.under path.toList)

end Failover
