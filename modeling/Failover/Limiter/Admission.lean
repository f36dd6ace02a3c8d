import Failover.Text.Numeral
import Failover.Time.Span

/-! What passes between a limiter and its callers: how the holder of a permit ended, and the refusal
of a permit. -/
namespace Failover

/-- How the holder of a permit ended: with a round trip to learn from, dropped by the server, or
with nothing to learn. -/
inductive Completion where
  | success (rtt : Span)
  | dropped
  | ignored
  deriving DecidableEq, Repr

/-- The refusal of a permit by a limiter at its limit. -/
structure AdmissionError where
  limiter : String
  limit : Nat
  deriving DecidableEq, Repr

def AdmissionError.message (e : AdmissionError) : String :=
  "limiter '" ++ e.limiter ++ "' at capacity (" ++ Numeral.decimal e.limit ++ " in flight)"

end Failover
