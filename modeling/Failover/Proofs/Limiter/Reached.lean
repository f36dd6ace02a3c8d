import Failover.Proofs.Limiter.Blocks
import Failover.Proofs.Limiter.Lending

/-!
# What a limiter can be brought to

A limiter is made, lends permits and gets them back, and its limit moves with what it learns. No way
of using it brings the limit to zero, so that one with no permit out has room for the next caller
whatever it went through before.
-/

namespace Failover

namespace Controller

/-- What the limiter of a key can be brought to: it is made, lends permits while there is room, and
gets back those that are out. Each of this has its own moment. -/
inductive Reached (s : LimiterSettings) (key : String) : Controller → Prop
  | made (clock : Clock) : Reached s key (Limiters.create s key clock).1
  | lends {c : Controller} (reached : Reached s key c) (room : c.inFlight < c.limit) :
      Reached s key { c with inFlight := c.inFlight + 1 }
  | takesBack {c : Controller} (reached : Reached s key c) (out : 0 < c.inFlight) (clock : Clock)
      (completion : Completion) : Reached s key (c.release clock completion).1

variable {s : LimiterSettings} {key : String} {c d : Controller}

/-- What every use keeps: the limit is not zero, and the rule that moves it is that of the
settings. -/
structure IsGoverned (s : LimiterSettings) (c : Controller) : Prop where
  limit_pos : 0 < c.limit
  rule : ∀ l, c.learning = some l → l.rule = .ofSettings s

theorem Reached.isGoverned (reached : Reached s key c) : c.IsGoverned s := by
  -- no rule of settings sets a limit below one
  have clamped : ∀ limit, 0 < (LimitRule.ofSettings s).clamp limit := fun limit =>
    Nat.lt_of_lt_of_le (LimitRule.one_le_minLimit s)
      (LimitRule.between_clamp (LimitRule.minLimit_le_maxLimit s) limit).1
  induction reached with
  | made clock =>
    unfold Limiters.create
    by_cases enabled : s.enabled = true
    · rw [if_pos enabled]
      refine ⟨clamped _, ?_⟩
      rintro _ ⟨⟩
      rfl
    · rw [if_neg enabled]
      exact ⟨show 0 < Word64.largest by decide, nofun⟩
  | lends _ _ ih => exact ⟨ih.limit_pos, ih.rule⟩
  | @takesBack c _ _ clock completion ih =>
    obtain ⟨_, _, learning, limit⟩ := release_cases c clock completion
    refine ⟨?_, fun l learns => ih.rule l (learning ▸ learns)⟩
    rcases limit with same | ⟨l, w, learns, set⟩
    · rw [same]
      exact ih.limit_pos
    · rw [set, LimitRule.update, ih.rule l learns]
      exact clamped _

/-- Whatever turns a limiter takes, it can be brought to where they lead. -/
theorem Reached.takeAll? (reached : Reached s key c) {turns : List Turn} {clock later : Clock}
    (taken : Turn.takeAll? turns c clock = some (d, later)) : Reached s key d := by
  induction turns generalizing c clock with
  | nil =>
    cases taken
    exact reached
  | cons turn rest ih =>
    obtain ⟨⟨c', clock'⟩, first, taken⟩ := Option.bind_eq_some_iff.mp taken
    refine ih ?_ taken
    rcases Turn.take?_cases first with ⟨_, room, rfl, _⟩ | ⟨completion, _, out, rfl, _⟩ |
      ⟨_, _, rfl, _⟩
    · exact reached.lends room
    · exact reached.takesBack out clock completion
    · exact reached

end Controller

namespace Limiters

/-- Limiters with these settings, where that of a key was used in any way and has so many permits
out. -/
structure HasLent (ls : Limiters) (s : LimiterSettings) (key : String) (out : Nat) : Prop where
  settings : ls.settings = s
  reached : ∀ c, ls.find? key = some c → Controller.Reached s key c
  lent : ls.inFlight key = out

variable {ls : Limiters} {s : LimiterSettings} {key : String} {out : Nat}

theorem ofSettings_hasLent (s : LimiterSettings) (key : String) :
    (ofSettings s).HasLent s key 0 := ⟨rfl, nofun, rfl⟩

/-- The limiter of the key, made if it is new. -/
theorem HasLent.obtain (h : ls.HasLent s key out) (clock : Clock) :
    Controller.Reached s key (ls.obtain clock key).1 ∧
      (ls.obtain clock key).1.inFlight = out := by
  refine ⟨?_, by rw [inFlight_obtain, h.lent]⟩
  rw [Limiters.obtain]
  cases found : ls.find? key with
  | some c => exact h.reached c found
  | none =>
    rw [h.settings]
    exact .made clock

theorem HasLent.put (h : ls.HasLent s key out) {c : Controller}
    (reached : Controller.Reached s key c) : (ls.put key c).HasLent s key c.inFlight where
  settings := h.settings
  reached d found := by
    rw [find?_put_self] at found
    cases found
    exact reached
  lent := by rw [inFlight_put, if_pos rfl]

/-- A limiter with no permit out lends one to the next caller. -/
theorem HasLent.acquire (h : ls.HasLent s key 0) (clock : Clock) :
    ∃ c events, (ls.obtain clock key).1.acquire = (.granted, c, events) ∧
      (ls.put key c).HasLent s key 1 := by
  obtain ⟨reached, free⟩ := h.obtain clock
  have room : (ls.obtain clock key).1.inFlight < (ls.obtain clock key).1.limit := by
    rw [free]
    exact reached.isGoverned.limit_pos
  obtain ⟨granted, lent⟩ := Controller.acquire_of_room room
  refine ⟨_, _, Prod.ext granted rfl, ?_⟩
  have put := h.put (reached.lends room)
  rw [lent]
  simpa [free] using put

/-- The one permit that is out comes back. -/
theorem HasLent.release (h : ls.HasLent s key 1) (clock : Clock) (completion : Completion) :
    (ls.put key ((ls.obtain clock key).1.release clock completion).1).HasLent s key 0 := by
  obtain ⟨reached, one⟩ := h.obtain clock
  have put := h.put (reached.takesBack (by omega) clock completion)
  rwa [Controller.inFlight_release, one] at put

end Limiters
end Failover
