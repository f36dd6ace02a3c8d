import Failover.Text.Numeral
import Failover.Text.Word

/-! Spans of time, in whole nanoseconds, and their text. A span is never negative; the longest one
is `2^64 - 1` seconds and 999999999 nanoseconds. -/
namespace Failover

/-- A length of time in nanoseconds. -/
structure Span where
  nanos : Nat
  deriving DecidableEq, Repr

namespace Span

/-- No time at all. -/
def zero : Span := ⟨0⟩

/-- The longest span, which stands for a wait without end. -/
def longest : Span := ⟨18446744073709551615999999999⟩

def ofMillis (ms : Nat) : Span := ⟨ms * 1000000⟩

def ofSeconds (s : Nat) : Span := ⟨s * 1000000000⟩

/-- Whole milliseconds, the rest dropped. -/
def millis (d : Span) : Nat := d.nanos / 1000000

/-- Milliseconds, a started one counted as whole. -/
def millisCeil (d : Span) : Nat := (d.nanos + 999999) / 1000000

/-- The nanoseconds that fit a 64-bit word. -/
def wordNanos (d : Span) : Nat := Word64.clip d.nanos

/-- The shorter of two spans. -/
def least (a b : Span) : Span := if b.nanos < a.nanos then b else a

/-- Seconds as a binary fraction: the whole seconds plus the rest over a thousand million. -/
def seconds (d : Span) : Float :=
  Word64.toFloat (d.nanos / 1000000000) + Word64.toFloat (d.nanos % 1000000000) / 1000000000.0

/-- The digits after the point of `part` out of `10 ^ places`, without trailing zeros. -/
def fraction (places part : Nat) : String :=
  let digits := (Numeral.padded places part).toList
  let kept := (digits.reverse.dropWhile (· == '0')).reverse
  if kept.isEmpty then "" else "." ++ String.ofList kept

/-- The span in its largest unit of seconds, milli-, micro- and nanoseconds that has a whole part,
with the exact fraction. -/
def text (d : Span) : String :=
  let inUnit (places : Nat) (name : String) : String :=
    Numeral.decimal (d.nanos / Nat.pow 10 places) ++
      fraction places (d.nanos % Nat.pow 10 places) ++ name
  if 1000000000 ≤ d.nanos then inUnit 9 "s"
  else if 1000000 ≤ d.nanos then inUnit 6 "ms"
  else if 1000 ≤ d.nanos then inUnit 3 "µs"
  else inUnit 0 "ns"

@[simp] theorem nanos_ofMillis (ms : Nat) : (ofMillis ms).nanos = ms * 1000000 := rfl

@[simp] theorem millis_ofMillis (ms : Nat) : (ofMillis ms).millis = ms := by
  simp [millis, ofMillis]

theorem nanos_least (a b : Span) : (least a b).nanos = min a.nanos b.nanos := by
  unfold least; split <;> omega

theorem wordNanos_le (d : Span) : d.wordNanos ≤ Word64.largest := Word64.clip_le _

end Span
end Failover
