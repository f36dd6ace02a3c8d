import Failover.Limiter.Registry

/-!
# What the operations of a limiter change

A limiter counts the permits that are out, and only lending one and taking one back moves that
count, whatever it learns meanwhile.
-/

namespace Failover

/-! ## One limiter -/

namespace Controller

variable {c d : Controller}

/-- A limiter that is asked for a permit lends one, or is left as it is. -/
theorem acquire_cases {answer : Admission} {events : List Event}
    (h : c.acquire = (answer, d, events)) :
    (answer = .granted ∧ d = { c with inFlight := c.inFlight + 1 }) ∨
    (answer ≠ .granted ∧ d = c) := by
  rw [acquire, tryAcquire] at h
  by_cases room : c.hasRoom
  · rw [if_pos room] at h
    cases h
    exact .inl ⟨rfl, rfl⟩
  · rw [if_neg room] at h
    cases hm : c.mode with
    | rejecting =>
      simp only [hm] at h
      cases h
      exact .inr ⟨nofun, rfl⟩
    | blocking =>
      simp only [hm] at h
      cases h
      exact .inr ⟨nofun, rfl⟩

/-- A limiter that learns looks at its window with the report in it. -/
theorem observe_of_learning {l : Learning} (learns : c.learning = some l) (clock : Clock)
    (see : Window → Window) :
    c.observe clock see =
      if l.closes (c.now clock) c.deadline (see c.window) then
        ({ c with window := see c.window } : Controller).roll l (c.now clock)
      else ({ c with window := see c.window }, []) := by
  rw [observe, learns]
  rfl

/-- To learn from a report lends no permit and takes none back. -/
theorem observe_frame (c : Controller) (clock : Clock) (see : Window → Window) :
    (c.observe clock see).1.inFlight = c.inFlight ∧
    (c.observe clock see).1.created = c.created := by
  unfold observe
  split
  · exact ⟨rfl, rfl⟩
  · simp only
    split <;> exact ⟨rfl, rfl⟩

theorem learn_frame (c : Controller) (clock : Clock) (completion : Completion) :
    (c.learn clock completion).1.inFlight = c.inFlight ∧
    (c.learn clock completion).1.created = c.created := by
  cases completion with
  | success rtt => exact observe_frame c clock _
  | dropped => exact observe_frame c clock _
  | ignored => exact ⟨rfl, rfl⟩

theorem inFlight_release (c : Controller) (clock : Clock) (completion : Completion) :
    (c.release clock completion).1.inFlight = c.inFlight - 1 := by
  show (c.learn clock completion).1.inFlight - 1 = _
  rw [(learn_frame c clock completion).1]

theorem created_release (c : Controller) (clock : Clock) (completion : Completion) :
    (c.release clock completion).1.created = c.created :=
  (learn_frame c clock completion).2

/-- A permit that comes back with nothing to learn changes neither the window nor the limit. -/
theorem release_ignored (c : Controller) (clock : Clock) :
    (c.release clock .ignored).1 =
      { c with inFlight := c.inFlight - 1, signals := c.signals + 1 } := rfl

end Controller

/-! ## The limiters of an engine -/

namespace Limiters

/-- The permits of a key that are lent. -/
def inFlight (ls : Limiters) (key : String) : Nat := ((ls.find? key).map (·.inFlight)).getD 0

/-- The limit of a key and what was seen since it was set, if there is a limiter for it. -/
def learned? (ls : Limiters) (key : String) : Option (Nat × Window) :=
  (ls.find? key).map fun c => (c.limit, c.window)

variable {ls : Limiters} {key : String}

theorem inFlight_put (ls : Limiters) (key : String) (c : Controller) (other : String) :
    (ls.put key c).inFlight other = if other = key then c.inFlight else ls.inFlight other := by
  by_cases h : other = key
  · rw [if_pos h, h, inFlight, find?_put_self]
    rfl
  · rw [if_neg h, inFlight, find?_put_of_ne c h]
    rfl

/-- A limiter that is made when it is asked for has lent nothing. -/
theorem inFlight_obtain (ls : Limiters) (clock : Clock) (key : String) :
    (ls.obtain clock key).1.inFlight = ls.inFlight key := by
  rw [obtain, inFlight]
  cases ls.find? key with
  | some c => rfl
  | none =>
    simp only [create]
    split <;> rfl

/-- A limiter that has lent a permit has been made. -/
theorem obtain_of_pos (clock : Clock) (h : 0 < ls.inFlight key) :
    ls.find? key = some (ls.obtain clock key).1 := by
  rw [inFlight] at h
  cases hf : ls.find? key with
  | some c => rw [obtain, hf]
  | none =>
    rw [hf] at h
    cases h

/-- To look a limiter up lends nothing. -/
theorem inFlight_put_obtain (ls : Limiters) (clock : Clock) (key other : String) :
    (ls.put key (ls.obtain clock key).1).inFlight other = ls.inFlight other := by
  rw [inFlight_put, inFlight_obtain]
  split
  · rename_i h
    rw [h]
  · rfl

/-- A limiter of a key that is asked for a permit has lent one more if it grants it, and no other
limiter has. -/
theorem inFlight_acquire {clock : Clock} {answer : Controller.Admission} {c : Controller}
    {events : List Event} (h : (ls.obtain clock key).1.acquire = (answer, c, events))
    (other : String) :
    (ls.put key c).inFlight other =
      ls.inFlight other + if answer = .granted ∧ other = key then 1 else 0 := by
  rcases Controller.acquire_cases h with ⟨granted, lent⟩ | ⟨refused, same⟩
  · rw [inFlight_put, lent, inFlight_obtain]
    by_cases hk : other = key
    · simp [granted, hk]
    · simp [hk]
  · rw [same, inFlight_put_obtain]
    simp [refused]

/-- A limiter of a key that gets a permit back has lent one fewer, and no other limiter has. -/
theorem inFlight_release (ls : Limiters) (clock : Clock) (key : String) (completion : Completion)
    (other : String) :
    (ls.put key ((ls.obtain clock key).1.release clock completion).1).inFlight other =
      ls.inFlight other - if other = key then 1 else 0 := by
  rw [inFlight_put, Controller.inFlight_release, inFlight_obtain]
  by_cases hk : other = key
  · simp [hk]
  · simp [hk]

end Limiters

end Failover
