/-! The range of 64-bit words, in which counts, limits and nanoseconds are kept. -/
namespace Failover.Word64

/-- The number of words. -/
def size : Nat := 18446744073709551616

/-- The largest word. -/
def largest : Nat := 18446744073709551615

/-- A number that stops at the largest word. -/
def clip (n : Nat) : Nat := min n largest

/-- The lowest 64 bits of a number. -/
def wrap (n : Nat) : Nat := n % size

theorem clip_le (n : Nat) : clip n ≤ largest := Nat.min_le_right _ _

theorem clip_of_le {n : Nat} (h : n ≤ largest) : clip n = n := Nat.min_eq_left h

theorem wrap_of_lt {n : Nat} (h : n < size) : wrap n = n := Nat.mod_eq_of_lt h

/-- The nearest double of a word. -/
def toFloat (n : Nat) : Float := (UInt64.ofNat n).toFloat

end Failover.Word64
