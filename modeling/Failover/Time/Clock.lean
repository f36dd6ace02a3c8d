import Failover.Time.Span

/-! The clock that every step is given. Time has passed since the clock started, and the wall clock
stood at a known moment then; no definition of the library reads any other clock. -/
namespace Failover

/-- The time passed since the start, and the time since 1 January 1970 at the start, in
nanoseconds; the latter is negative on a clock that is behind. -/
structure Clock where
  wallAtStart : Int
  elapsed : Nat
  deriving DecidableEq, Repr

namespace Clock

/-- The wall clock in nanoseconds since 1 January 1970. -/
def wall (c : Clock) : Int := c.wallAtStart + c.elapsed

/-- The time passed since `start`, a moment on this clock. -/
def since (c : Clock) (start : Nat) : Span := ⟨c.elapsed - start⟩

def advance (c : Clock) (d : Span) : Clock := { c with elapsed := c.elapsed + d.nanos }

/-- Whole milliseconds since the start. -/
def millis (c : Clock) : Nat := c.elapsed / 1000000

/-- The moment at which a wait of `d` that begins now ends: timers fire on whole milliseconds. -/
def due (c : Clock) (d : Span) : Nat := c.elapsed + d.millisCeil * 1000000

/-- The clock moved forward to a moment, never back. -/
def moveTo (c : Clock) (moment : Nat) : Clock := { c with elapsed := max c.elapsed moment }

end Clock
end Failover
