import Failover.Journal.Event
import Failover.Limiter.LimitRule

/-! A limiter: it lends permits below a limit, and learns the limit from how their holders end. What
it sees goes into a window; when the window closes the limit is set anew and a fresh one begins. -/
namespace Failover

/-- How a limiter learns: its rule, and after how long or how many events a window closes. -/
structure Learning where
  rule : LimitRule
  windowNanos : Nat
  windowEvents : Nat

/-- The limiter of one key. Moments are nanoseconds on the clock; the deadline of the window counts
from the moment of creation and stops at the largest 64-bit word. `signals` counts the occasions on
which those who wait for a permit were woken. -/
structure Controller where
  name : String
  mode : AdmissionMode
  learning : Option Learning
  limit : Nat
  inFlight : Nat
  window : Window
  created : Nat
  deadline : Nat
  signals : Nat

namespace Learning

def ofSettings (s : LimiterSettings) : Learning :=
  { rule := .ofSettings s
    windowNanos := (Span.ofMillis (max s.windowMs.toNat 1)).wordNanos
    windowEvents := max s.windowSamples.toNat 1 }

/-- Whether a window closes at `now`: it is full, it is due, or it holds nothing but drops. -/
def closes (l : Learning) (now deadline : Nat) (w : Window) : Bool :=
  w.isDropOnly || l.windowEvents ≤ w.events || deadline ≤ now

/-- When a window that begins at `now` is due. -/
def due (l : Learning) (now : Nat) : Nat := Word64.clip (now + l.windowNanos)

end Learning

namespace Controller

/-- A limiter that learns, with the gauge of its first limit. -/
def adaptive (name : String) (s : LimiterSettings) (clock : Clock) : Controller × List Event :=
  let l := Learning.ofSettings s
  let limit := l.rule.clamp s.initialLimit.toNat
  ({ name, mode := s.mode, learning := some l, limit, inFlight := 0, window := .empty,
     created := clock.elapsed, deadline := l.windowNanos, signals := 0 }, [.limitSet name limit])

/-- A limiter that lends every permit and learns nothing. -/
def unbounded (name : String) (clock : Clock) : Controller :=
  { name, mode := .rejecting, learning := none, limit := Word64.largest, inFlight := 0,
    window := .empty, created := clock.elapsed, deadline := Word64.largest, signals := 0 }

/-- Nanoseconds since the limiter was created, as a 64-bit word. -/
def now (c : Controller) (clock : Clock) : Nat := (clock.since c.created).wordNanos

/-- The gauge of the permits lent, which only a limiter that learns keeps. -/
def inFlightGauge (c : Controller) : List Event :=
  if c.learning.isSome then [.inFlightSet c.name c.inFlight] else []

/-- Whether a permit can be lent. -/
def hasRoom (c : Controller) : Bool := c.inFlight < c.limit

/-- Lends a permit if there is room. -/
def tryAcquire (c : Controller) : Option (Controller × List Event) :=
  if c.hasRoom then
    let c := { c with inFlight := c.inFlight + 1 }
    some (c, c.inFlightGauge)
  else none

/-- The answer to a caller who asks for a permit. One who waits remembers the signals so far. -/
inductive Admission where
  | granted
  | refused (error : AdmissionError)
  | waiting (signals : Nat)
  deriving DecidableEq, Repr

/-- Lends a permit, or refuses it or has the caller wait, as the mode says. -/
def acquire (c : Controller) : Admission × Controller × List Event :=
  match c.tryAcquire with
  | some (c, events) => (.granted, c, events)
  | none =>
    match c.mode with
    | .rejecting => (.refused ⟨c.name, c.limit⟩, c, [.permitRefused c.name])
    | .blocking => (.waiting c.signals, c, [.permitAwaited c.name c.limit])

/-- Closes the window that is open: sets the limit by it and begins a fresh one. Those who wait are
woken if the limit rises. -/
def roll (c : Controller) (l : Learning) (now : Nat) : Controller × List Event :=
  let limit := l.rule.update c.limit c.window
  ({ c with
     limit
     window := .empty
     deadline := l.due now
     signals := if c.limit < limit then c.signals + 1 else c.signals },
   if limit = c.limit then []
   else [.limitChanged c.name c.limit limit c.window, .limitSet c.name limit])

/-- The window with one more event seen, closed if that is time. -/
def observe (c : Controller) (clock : Clock) (see : Window → Window) : Controller × List Event :=
  match c.learning with
  | none => (c, [])
  | some l =>
    let c := { c with window := see c.window }
    if l.closes (c.now clock) c.deadline c.window then c.roll l (c.now clock) else (c, [])

/-- What the limiter learns from the end of a permit. -/
def learn (c : Controller) (clock : Clock) : Completion → Controller × List Event
  | .success rtt => c.observe clock (·.addSample rtt c.inFlight)
  | .dropped => c.observe clock (·.addDrop c.inFlight)
  | .ignored => (c, [])

/-- Takes a permit back and wakes all who wait. -/
def giveBack (c : Controller) : Controller × List Event :=
  let c := { c with inFlight := c.inFlight - 1, signals := c.signals + 1 }
  (c, c.inFlightGauge)

/-- The end of a permit: the limiter learns from it and takes it back. -/
def release (c : Controller) (clock : Clock) (completion : Completion) :
    Controller × List Event :=
  let (learned, events) := c.learn clock completion
  let (free, more) := learned.giveBack
  (free, .permitReleased c.name completion :: events ++ more)

end Controller
end Failover
