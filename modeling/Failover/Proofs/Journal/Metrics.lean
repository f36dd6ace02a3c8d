import Failover.Journal.Metrics
import Mathlib.Data.List.Induction

/-!
# What the metrics of a limiter come to

The table of a journal is built measurement by measurement. For each of the three metrics of a
limiter its value can be read off the journal itself: a gauge shows what was recorded last, and a
counter how many refusals there are.
-/

namespace Failover

/-! ## The table -/

namespace MetricTable

theorem get?_cons (k : Metric) (v : MetricValue) (rest : MetricTable) (m : Metric) :
    get? ((k, v) :: rest) m = if m = k then some v else rest.get? m := by
  rw [get?, List.lookup_cons]
  by_cases here : m = k
  · simp [here]
  · rw [beq_eq_false_iff_ne.mpr here, if_neg here]
    rfl

/-- A measurement changes the value of its own metric and no other. -/
theorem get?_record (t : MetricTable) (x : Measurement) (m : Metric) :
    (t.record x).get? m = if m = x.metric then some (x.onto (t.get? m)) else t.get? m := by
  induction t with
  | nil => rw [record, get?_cons]; rfl
  | cons entry rest ih =>
    obtain ⟨k, v⟩ := entry
    rw [record]
    by_cases here : k = x.metric
    · rw [if_pos here, get?_cons, get?_cons, here]
      split <;> rfl
    · rw [if_neg here, get?_cons, get?_cons, ih]
      by_cases first : m = k
      · rw [if_pos first, if_pos first, if_neg fun e => here (first.symm.trans e)]
      · rw [if_neg first, if_neg first]

/-- The table after the measurements of one more event. -/
def after (t : MetricTable) (e : Event) : MetricTable := e.measurements.foldl record t

theorem ofEvents_concat (events : List Event) (e : Event) :
    ofEvents (events ++ [e]) = (ofEvents events).after e := by
  simp [ofEvents, after]

end MetricTable

/-! ## The metrics of a limiter -/

/-- A metric that a limiter has for itself. -/
def Metric.ofLimiter (metric limiter : String) : Metric := ⟨metric, [("limiter", limiter)]⟩

namespace Event

/-- The limit that is recorded for a limiter. -/
def limitOf? (limiter : String) : Event → Option Nat
  | .limitSet name limit => if name = limiter then some limit else none
  | _ => none

/-- The permits in use that are recorded for a limiter. -/
def inFlightOf? (limiter : String) : Event → Option Nat
  | .inFlightSet name count => if name = limiter then some count else none
  | _ => none

/-- Whether a permit of a limiter is refused. -/
def refuses (limiter : String) : Event → Bool
  | .permitRefused name => name = limiter
  | _ => false

end Event

/-- What a journal recorded last. -/
def recorded? (reads : Event → Option Nat) (events : List Event) : Option Nat :=
  (events.filterMap reads).getLast?

theorem recorded?_append (reads : Event → Option Nat) (events more : List Event) :
    recorded? reads (events ++ more) = (recorded? reads more).or (recorded? reads events) := by
  simp [recorded?, List.getLast?_append]

theorem getD_recorded?_append (reads : Event → Option Nat) (events more : List Event) (x : Nat) :
    (recorded? reads (events ++ more)).getD x =
      (recorded? reads more).getD ((recorded? reads events).getD x) := by
  rw [recorded?_append]
  cases recorded? reads more <;> rfl

namespace MetricTable

/-- A gauge that every event sets to what is read off it shows what was recorded last. -/
theorem get?_ofEvents_of_after {reads : Event → Option Nat} {m : Metric}
    (own : ∀ (t : MetricTable) (e : Event), (t.after e).get? m =
      ((reads e).map (.last ∘ Word64.toFloat)).or (t.get? m)) (events : List Event) :
    (ofEvents events).get? m = (recorded? reads events).map (.last ∘ Word64.toFloat) := by
  induction events using List.reverseRecOn with
  | nil => rfl
  | append_singleton events e ih =>
    rw [ofEvents_concat, own, ih, recorded?_append]
    cases he : reads e with
    | none => simp [recorded?, he]
    | some n => simp [recorded?, he]

theorem get?_limit (limiter : String) (events : List Event) :
    (ofEvents events).get? (.ofLimiter "resilient_call_concurrency_limit" limiter) =
      (recorded? (Event.limitOf? limiter) events).map (.last ∘ Word64.toFloat) := by
  refine get?_ofEvents_of_after (fun t e => ?_) events
  cases e with
  | limitSet name limit =>
    by_cases own : limiter = name
    · simp [after, Event.measurements, Event.limitOf?, get?_record, Measurement.metric,
        Measurement.onto, Metric.ofLimiter, own]
    · simp [after, Event.measurements, Event.limitOf?, get?_record, Measurement.metric,
        Metric.ofLimiter, own, Ne.symm own]
  | _ =>
    simp [after, Event.measurements, Event.limitOf?, get?_record, Measurement.metric,
      Metric.ofLimiter]

theorem get?_inFlight (limiter : String) (events : List Event) :
    (ofEvents events).get? (.ofLimiter "resilient_call_in_flight" limiter) =
      (recorded? (Event.inFlightOf? limiter) events).map (.last ∘ Word64.toFloat) := by
  refine get?_ofEvents_of_after (fun t e => ?_) events
  cases e with
  | inFlightSet name count =>
    by_cases own : limiter = name
    · simp [after, Event.measurements, Event.inFlightOf?, get?_record, Measurement.metric,
        Measurement.onto, Metric.ofLimiter, own]
    · simp [after, Event.measurements, Event.inFlightOf?, get?_record, Measurement.metric,
        Metric.ofLimiter, own, Ne.symm own]
  | _ =>
    simp [after, Event.measurements, Event.inFlightOf?, get?_record, Measurement.metric,
      Metric.ofLimiter]

/-- One more count, on top of what a counter came to. -/
theorem onto_count {m : Metric} {before : Option MetricValue} {n : Nat}
    (h : before.getD (.total 0) = .total n) :
    (Measurement.count m).onto before = .total (n + 1) := by
  cases before with
  | none =>
    cases h
    rfl
  | some v =>
    have total : v = .total n := h
    rw [total]
    rfl

/-- The counter of a limiter counts its refusals; before the first one there is no counter. -/
theorem get?_refused (limiter : String) (events : List Event) :
    ((ofEvents events).get? (.ofLimiter "resilient_call_admission_rejected_total" limiter)).getD
      (.total 0) = .total (events.countP (Event.refuses limiter)) := by
  induction events using List.reverseRecOn with
  | nil => rfl
  | append_singleton events e ih =>
    rw [ofEvents_concat, List.countP_append]
    cases e with
    | permitRefused name =>
      by_cases own : limiter = name
      · simpa [after, Event.measurements, Event.refuses, get?_record, Measurement.metric,
          Metric.ofLimiter, own] using onto_count ih
      · simpa [after, Event.measurements, Event.refuses, get?_record, Measurement.metric,
          Metric.ofLimiter, own, Ne.symm own] using ih
    | _ =>
      simpa [after, Event.measurements, Event.refuses, get?_record, Measurement.metric,
        Metric.ofLimiter] using ih

end MetricTable
end Failover
