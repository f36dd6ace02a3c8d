import Failover.Time.Span

/-! What a limiter has seen since it last set its limit: round trips and drops, with the most slots
that were taken meanwhile. The order of the events leaves no trace. -/
namespace Failover

/-- A summary of round trips and drops. Times are in nanoseconds and stop at the largest 64-bit
word. -/
structure Window where
  least : Nat
  total : Nat
  samples : Nat
  drops : Nat
  maxInFlight : Nat
  deriving DecidableEq, Repr

namespace Window

/-- No event yet. -/
def empty : Window := ⟨Word64.largest, 0, 0, 0, 0⟩

/-- A round trip as it is counted: at least one nanosecond. -/
def counted (rtt : Span) : Nat := max rtt.wordNanos 1

/-- One more round trip, ended while `inFlight` slots were taken. -/
def addSample (w : Window) (rtt : Span) (inFlight : Nat) : Window :=
  { w with
    least := min w.least (counted rtt)
    total := Word64.clip (w.total + counted rtt)
    samples := w.samples + 1
    maxInFlight := max w.maxInFlight inFlight }

/-- One more drop, which tells nothing about latency. -/
def addDrop (w : Window) (inFlight : Nat) : Window :=
  { w with drops := w.drops + 1, maxInFlight := max w.maxInFlight inFlight }

def didDrop (w : Window) : Bool := 0 < w.drops

/-- Samples and drops together. -/
def events (w : Window) : Nat := w.samples + w.drops

def isEmpty (w : Window) : Bool := w.events == 0

/-- Whether the window holds drops and no sample. -/
def isDropOnly (w : Window) : Bool := w.didDrop && w.samples == 0

/-- The least round trip. -/
def leastRtt? (w : Window) : Option Span := if 0 < w.samples then some ⟨w.least⟩ else none

/-- The mean round trip in whole nanoseconds. -/
def meanRtt? (w : Window) : Option Span :=
  if 0 < w.samples then some ⟨w.total / w.samples⟩ else none

def text (w : Window) : String :=
  "SampleWindow [minRtt=" ++ (w.leastRtt?.getD Span.zero).text ++
    ", avgRtt=" ++ (w.meanRtt?.getD Span.zero).text ++
    ", maxInFlight=" ++ Numeral.decimal w.maxInFlight ++
    ", samples=" ++ Numeral.decimal w.samples ++
    ", drops=" ++ Numeral.decimal w.drops ++ "]"

theorem counted_pos (rtt : Span) : 1 ≤ counted rtt := Nat.le_max_right _ _

end Window
end Failover
