/-! The settings of an engine, with the value of each when nothing is said. -/
namespace Failover

structure RetrySettings where
  enabled : Bool := true
  maxRetries : UInt32 := 3
  baseDelayMs : UInt64 := 250
  maxDelayMs : UInt64 := 5000
  jitter : Bool := true
  maxRetryAfterMs : UInt64 := 30000

structure RelocationSettings where
  maxRelocations : UInt32 := 20

/-- What a limiter does with a caller when every slot is taken. -/
inductive AdmissionMode where
  | blocking
  | rejecting
  deriving DecidableEq, Repr

def AdmissionMode.name : AdmissionMode → String
  | .blocking => "blocking"
  | .rejecting => "rejecting"

structure LimiterSettings where
  enabled : Bool := true
  mode : AdmissionMode := .blocking
  initialLimit : UInt64 := 10
  minLimit : UInt64 := 1
  maxLimit : UInt64 := 1000
  windowMs : UInt64 := 1000
  windowSamples : UInt64 := 100
  alpha : Float := 3.0
  beta : Float := 6.0
  backoffRatio : Float := 0.9

structure TimeoutSettings where
  connectMs : UInt64 := 2000
  attemptMs : UInt64 := 10000

structure ObservabilitySettings where
  logLevel : String := "info"
  metricsEnabled : Bool := false
  metricsAddress : String := "127.0.0.1:9090"

/-- All settings of an engine. -/
structure Settings where
  service : String := "default"
  endpoints : List String := []
  retries : RetrySettings := {}
  relocation : RelocationSettings := {}
  limiter : LimiterSettings := {}
  timeouts : TimeoutSettings := {}
  observability : ObservabilitySettings := {}

end Failover
