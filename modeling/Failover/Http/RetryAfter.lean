import Failover.Http.Headers
import Failover.Text.Decimal
import Failover.Time.Clock
import Failover.Time.HttpDate

/-! The wait that a server asks for: a number of seconds, or a date to wait for. -/
namespace Failover

/-- A wait as the server gives it. -/
inductive RetryAfter where
  | delay (span : Span)
  | date (moment : HttpDate)

namespace RetryAfter

/-- The span of a number of seconds, to the nearest nanosecond; one too long for a 64-bit count of
nanoseconds never ends. -/
def span? (seconds : Float) : Option Span :=
  if !seconds.isFinite || seconds < 0.0 then none
  else
    let nanos := (seconds * 1000000000.0).round
    if Float.ofBits 0x43F0000000000000 ≤ nanos then some Span.longest
    else some ⟨nanos.toUInt64.toNat⟩

def isBlank (c : Char) : Bool := c == ' ' || c == '\t'

/-- A text without blanks at its ends. -/
def trim (s : String) : String :=
  String.ofList (((s.toList.dropWhile isBlank).reverse.dropWhile isBlank).reverse)

/-- The wait that a text asks for. A number that is no wait is not tried as a date. -/
def ofText? (text : String) : Option RetryAfter :=
  match Binary64.read? text with
  | some seconds => (span? seconds).map .delay
  | none => (HttpDate.read? text).map .date

/-- The wait that a header value gives. -/
def ofValue? (value : List UInt8) : Option RetryAfter := do
  ofText? (trim (← Header.valueText? value))

/-- The wait from now on; none is left for a date that has passed. -/
def fromNow (clock : Clock) : RetryAfter → Span
  | .delay span => span
  | .date moment => ⟨(moment.nanos - clock.wall).toNat⟩

/-- The wait that the headers ask for. -/
def read? (clock : Clock) (headers : Headers) : Option Span := do
  let wait ← ofValue? (← headers.get? "retry-after")
  some (wait.fromNow clock)

end RetryAfter
end Failover
