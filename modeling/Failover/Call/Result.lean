import Failover.Http.Outcome
import Failover.Limiter.Admission

/-! What a call leaves behind: a record of every attempt, and either a response or the reason why
there is none. -/
namespace Failover

/-- One attempt of a call, counted from one. -/
structure AttemptRecord where
  attempt : Nat
  endpoint : String
  verdict : Verdict
  status : Option Status
  latencyMs : Nat
  deriving DecidableEq, Repr

/-- Why a call failed. -/
inductive CallFailure where
  | transport (cause : TransportError)
  | throttled
  | capacity (cause : AdmissionError)
  | endpoints
  | relocations (limit : Nat)
  | fatal (cause : FatalCause) (response : Option Response)
  deriving DecidableEq, Repr

namespace CallFailure

/-- A short name for counting. -/
def label : CallFailure → String
  | .transport _ => "transport_failure"
  | .throttled => "throttled"
  | .capacity _ => "capacity_exhausted"
  | .endpoints => "endpoints_exhausted"
  | .relocations _ => "relocation_limit"
  | .fatal _ _ => "fatal"

/-- Whether the call failed because no retry was left. -/
def isRetriesExhausted : CallFailure → Bool
  | .transport _ | .throttled | .capacity _ => true
  | _ => false

def message : CallFailure → String
  | .transport cause => "transport failure, retries exhausted: " ++ cause.message
  | .throttled => "throttled, retries exhausted"
  | .capacity cause => "admission refused, retries exhausted: " ++ cause.message
  | .endpoints => "all endpoints exhausted"
  | .relocations limit => "relocation limit of " ++ Numeral.decimal limit ++ " exceeded"
  | .fatal cause _ => "fatal: " ++ cause.text

/-- The message of the error behind the failure, if there is one. -/
def source? : CallFailure → Option String
  | .transport cause => some cause.message
  | .capacity cause => some cause.message
  | _ => none

/-- The response behind the failure, if one was received. -/
def response? : CallFailure → Option Response
  | .fatal _ response => response
  | _ => none

end CallFailure

/-- A call that succeeded. -/
structure CallSuccess where
  response : Response
  attempts : Nat
  relocations : Nat
  endpoint : Url
  history : List AttemptRecord

/-- A call that failed. -/
structure CallError where
  failure : CallFailure
  attempts : Nat
  lastEndpoint : Url
  history : List AttemptRecord

/-- The message of a failed call, which is named by `id`. -/
def CallError.message (e : CallError) (id : String) : String :=
  "call " ++ id ++ " failed after " ++ Numeral.decimal e.attempts ++
    " attempt(s), last endpoint " ++ e.lastEndpoint.text ++ ": " ++ e.failure.message

/-- How a call ended. -/
abbrev CallResult := Except CallError CallSuccess

end Failover
