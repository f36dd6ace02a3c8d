import Failover.Config.Settings
import Failover.Time.Span

/-! How long to wait before each retry. A policy gives a wait for every retry it allows, counted
from zero; a cursor walks over them once per call. -/
namespace Failover

/-- A rule for the waits before retries. Jitter takes up to a tenth off a wait; what it takes is
drawn by the caller. -/
inductive Backoff where
  | never
  | fixed (delays : List Span)
  | exponential (base cap : Span) (maxRetries : Nat) (jitter : Bool)
  deriving DecidableEq, Repr

namespace Backoff

/-- The milliseconds of a span that fit a 64-bit word, the rest lost. -/
def wordMillis (d : Span) : Nat := Word64.wrap d.millis

/-- The wait in milliseconds before retry `slot`: doubled every time, below the cap. Products stop
at the largest word. -/
def doubled (baseMs capMs slot : Nat) : Nat :=
  min (Word64.clip (baseMs * Word64.clip (Nat.pow 2 (min slot 64)))) capMs

/-- The wait before retry `slot`, with `drawn` milliseconds of jitter. -/
def delay? (policy : Backoff) (drawn : Nat) (slot : Nat) : Option Span :=
  match policy with
  | .never => none
  | .fixed delays => delays[slot]?
  | .exponential base cap maxRetries jitter =>
    if maxRetries ≤ slot then none
    else
      let ms := doubled (wordMillis base) (wordMillis cap) slot
      some (Span.ofMillis (ms - if jitter then min drawn (ms / 10 - 1) else 0))

/-- The retries that a policy allows. -/
def slots : Backoff → Nat
  | .never => 0
  | .fixed delays => delays.length
  | .exponential _ _ maxRetries _ => maxRetries

/-- The policy that the settings describe. -/
def ofSettings (s : RetrySettings) : Backoff :=
  if !s.enabled || s.maxRetries == 0 then .never
  else
    .exponential (Span.ofMillis s.baseDelayMs.toNat) (Span.ofMillis s.maxDelayMs.toNat)
      s.maxRetries.toNat s.jitter

theorem delay?_isSome_iff (policy : Backoff) (drawn slot : Nat) :
    (policy.delay? drawn slot).isSome ↔ slot < policy.slots := by
  cases policy with
  | never => simp [delay?, slots]
  | fixed delays => simp [delay?, slots]
  | exponential base cap maxRetries jitter =>
    simp only [delay?, slots]
    split <;> simp <;> omega

end Backoff

/-- A policy and the retries of it that one call has used. -/
structure BackoffCursor where
  policy : Backoff
  position : Nat
  deriving DecidableEq, Repr

namespace BackoffCursor

def start (policy : Backoff) : BackoffCursor := ⟨policy, 0⟩

/-- Uses one retry and gives its wait; a used-up cursor stays as it is. -/
def next? (c : BackoffCursor) (drawn : Nat) : Option (Span × BackoffCursor) :=
  (c.policy.delay? drawn c.position).map fun d => (d, { c with position := c.position + 1 })

/-- The retries that are left. -/
def remaining (c : BackoffCursor) : Nat := c.policy.slots - c.position

end BackoffCursor
end Failover
