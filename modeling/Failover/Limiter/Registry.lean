import Failover.Limiter.Controller

/-! One limiter for each key, made when the key is first used. All of them have the same settings.
-/
namespace Failover

/-- The limiters made so far, each under its key. -/
structure Limiters where
  settings : LimiterSettings
  entries : List (String × Controller)

namespace Limiters

def ofSettings (settings : LimiterSettings) : Limiters := ⟨settings, []⟩

def find? (ls : Limiters) (key : String) : Option Controller := ls.entries.lookup key

def size (ls : Limiters) : Nat := ls.entries.length

/-- A new limiter for a key. -/
def create (s : LimiterSettings) (key : String) (clock : Clock) : Controller × List Event :=
  let (c, events) :=
    if s.enabled then Controller.adaptive key s clock else (Controller.unbounded key clock, [])
  (c, .limiterCreated key s.enabled :: events)

/-- The limiter of a key, and what happened if it had to be made. -/
def obtain (ls : Limiters) (clock : Clock) (key : String) : Controller × List Event :=
  match ls.find? key with
  | some c => (c, [])
  | none => create ls.settings key clock

/-- The entries with the limiter of `key` replaced, or added behind the others. -/
def putInto (key : String) (c : Controller) :
    List (String × Controller) → List (String × Controller)
  | [] => [(key, c)]
  | (k, d) :: rest => if key = k then (key, c) :: rest else (k, d) :: putInto key c rest

/-- The limiter of a key from now on. -/
def put (ls : Limiters) (key : String) (c : Controller) : Limiters :=
  { ls with entries := putInto key c ls.entries }

theorem find?_put_self (ls : Limiters) (key : String) (c : Controller) :
    (ls.put key c).find? key = some c := by
  simp only [find?, put]
  induction ls.entries with
  | nil => simp [putInto]
  | cons e rest ih =>
    obtain ⟨k, d⟩ := e
    by_cases h : key = k
    · simp [putInto, h]
    · simp [putInto, h, List.lookup_cons, beq_eq_false_iff_ne.2 h, ih]

theorem find?_put_of_ne {ls : Limiters} {key other : String} (c : Controller) (h : other ≠ key) :
    (ls.put key c).find? other = ls.find? other := by
  simp only [find?, put]
  induction ls.entries with
  | nil => simp [putInto, List.lookup_cons, beq_eq_false_iff_ne.2 h]
  | cons e rest ih =>
    obtain ⟨k, d⟩ := e
    by_cases hk : key = k
    · subst hk
      simp [putInto, List.lookup_cons, beq_eq_false_iff_ne.2 h]
    · simp only [putInto, if_neg hk, List.lookup_cons, ih]

end Limiters
end Failover
