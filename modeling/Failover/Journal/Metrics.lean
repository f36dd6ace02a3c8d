import Failover.Journal.Event

/-! The measurements of an engine: what of its journal is counted, set or collected, and the values
that a list of measurements leaves. -/
namespace Failover

/-- What is measured: a name and its labels in order. -/
structure Metric where
  name : String
  labels : List (String × String)
  deriving DecidableEq, Repr

/-- The name with its labels in braces. -/
def Metric.text (m : Metric) : String :=
  m.name ++ "\x7b" ++ ",".intercalate (m.labels.map fun (k, v) => k ++ "=" ++ v) ++ "\x7d"

/-- One measurement. -/
inductive Measurement where
  | count (metric : Metric)
  | gauge (metric : Metric) (value : Float)
  | sample (metric : Metric) (value : Float)

/-- What the measurements of one metric come to. -/
inductive MetricValue where
  | total (count : Nat)
  | last (value : Float)
  | all (values : List Float)

namespace Event

/-- The measurements that an event makes. -/
def measurements : Event → List Measurement
  | .limitSet limiter limit =>
    [.gauge ⟨"resilient_call_concurrency_limit", [("limiter", limiter)]⟩ (Word64.toFloat limit)]
  | .inFlightSet limiter count =>
    [.gauge ⟨"resilient_call_in_flight", [("limiter", limiter)]⟩ (Word64.toFloat count)]
  | .permitRefused limiter =>
    [.count ⟨"resilient_call_admission_rejected_total", [("limiter", limiter)]⟩]
  | .attemptRecorded r latency =>
    [.count ⟨"resilient_call_attempts_total",
        [("endpoint", r.endpoint), ("outcome", r.verdict.label)]⟩,
      .sample ⟨"resilient_call_attempt_duration_seconds", [("endpoint", r.endpoint)]⟩
        latency.seconds]
  | .callSucceeded _ _ => [.count ⟨"resilient_call_calls_total", [("result", "success")]⟩]
  | .callFailed _ _ _ failure =>
    [.count ⟨"resilient_call_calls_total", [("result", failure.label)]⟩]
  | _ => []

end Event

namespace Measurement

def metric : Measurement → Metric
  | .count m | .gauge m _ | .sample m _ => m

/-- The value of a metric after one more measurement. -/
def onto (before : Option MetricValue) : Measurement → MetricValue
  | .count _ => match before with
    | some (.total n) => .total (n + 1)
    | _ => .total 1
  | .gauge _ value => .last value
  | .sample _ value => match before with
    | some (.all values) => .all (values ++ [value])
    | _ => .all [value]

end Measurement

/-- The value of every metric, in the order in which they were first measured. -/
abbrev MetricTable := List (Metric × MetricValue)

namespace MetricTable

def get? (t : MetricTable) (m : Metric) : Option MetricValue := t.lookup m

/-- The table after one more measurement. -/
def record (t : MetricTable) (x : Measurement) : MetricTable :=
  match t with
  | [] => [(x.metric, x.onto none)]
  | (m, v) :: rest =>
    if m = x.metric then (m, x.onto (some v)) :: rest else (m, v) :: record rest x

/-- The table of everything that a journal measured. -/
def ofEvents (events : List Event) : MetricTable :=
  (events.flatMap Event.measurements).foldl record []

end MetricTable
end Failover
