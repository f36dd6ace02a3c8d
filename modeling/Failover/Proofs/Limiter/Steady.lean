import Failover.Proofs.Limiter.Blocks

/-!
# A limiter between its turns

A window is open between the turns of a limiter, and nothing that should have closed it is in it:
it is not full, it does not consist of drops, and its deadline is no further away than one window.
The report that would break this closes the window within its own turn. The limit stays within its
bounds, and so does the number of permits that any report of the open window has seen out.
-/

namespace Failover

/-! ## One report -/

namespace Learning

variable {l : Learning} {now later deadline : Nat} {w : Window}

theorem due_mono (l : Learning) (passes : now ≤ later) : l.due now ≤ l.due later := by
  show min _ Word64.largest ≤ min _ Word64.largest
  omega

/-- A window that begins is due later, unless there is no later moment. -/
theorem lt_due (s : LimiterSettings) (word : now ≤ Word64.largest) :
    now < (ofSettings s).due now ∨ now = Word64.largest := by
  rw [due_eq]
  show now < min (now + max s.windowMs.toNat 1 * 1000000) Word64.largest ∨ _
  omega

/-- What is known of a window that stays open. -/
theorem of_not_closes (stays : ¬l.closes now deadline w = true) :
    w.isDropOnly = false ∧ w.events < l.windowEvents ∧ now < deadline := by
  simpa [closes, and_assoc] using stays

end Learning

namespace Window

/-- A window that does not consist of drops has a round trip beside any drop. -/
theorem samples_ne_zero {w : Window} (mixed : w.isDropOnly = false) (dropped : w.drops ≠ 0) :
    w.samples ≠ 0 := by
  intro unsampled
  rw [isDropOnly, didDrop, unsampled, decide_eq_true (Nat.pos_of_ne_zero dropped)] at mixed
  cases mixed

end Window

namespace Controller

variable {s : LimiterSettings} {c : Controller} {now later : Nat} {clock : Clock}

/-- What holds of a limiter with these settings at a moment between its turns. -/
structure IsSteady (s : LimiterSettings) (now : Nat) (c : Controller) : Prop where
  learning : c.learning = some (.ofSettings s)
  least : (LimitRule.ofSettings s).minLimit ≤ c.limit
  greatest : c.limit ≤ (LimitRule.ofSettings s).maxLimit
  inFlight_le : c.inFlight ≤ (LimitRule.ofSettings s).maxLimit
  events_lt : c.window.events < max s.windowSamples.toNat 1
  mixed : c.window.isDropOnly = false
  used_le : c.window.maxInFlight ≤ (LimitRule.ofSettings s).maxLimit
  used_pos : c.window.events ≠ 0 → 1 ≤ c.window.maxInFlight
  deadline_le : c.deadline ≤ (Learning.ofSettings s).due now

theorem adaptive_isSteady (name : String) (s : LimiterSettings) (clock : Clock) :
    (adaptive name s clock).1.IsSteady s 0 where
  learning := rfl
  least := (LimitRule.between_clamp (LimitRule.minLimit_le_maxLimit s) _).1
  greatest := (LimitRule.between_clamp (LimitRule.minLimit_le_maxLimit s) _).2
  inFlight_le := Nat.zero_le _
  events_lt := Nat.lt_of_lt_of_le Nat.zero_lt_one (Nat.le_max_right _ _)
  mixed := rfl
  used_le := Nat.zero_le _
  used_pos := nofun
  deadline_le := by
    rw [Learning.due_eq]
    exact Nat.le_of_eq (adaptive_follows name s clock).deadline_eq

theorem IsSteady.pass (h : c.IsSteady s now) (passes : now ≤ later) : c.IsSteady s later :=
  { h with deadline_le := Nat.le_trans h.deadline_le (Learning.due_mono _ passes) }

/-- A permit is lent only below the limit. -/
theorem IsSteady.lend (h : c.IsSteady s now) (room : c.inFlight < c.limit) :
    IsSteady s now { c with inFlight := c.inFlight + 1 } :=
  { h with inFlight_le := Nat.le_trans room h.greatest }

/-- A permit that comes back leaves the window to what was learned from it. -/
theorem IsSteady.giveBack (h : c.IsSteady s now) : c.giveBack.1.IsSteady s now :=
  { h with inFlight_le := Nat.le_trans (Nat.sub_le _ 1) h.inFlight_le }

/-- A report either closes the window, so that an empty one begins, or the window is neither full
nor due nor without a round trip. -/
theorem IsSteady.observe (h : c.IsSteady s (c.now clock)) (out : 0 < c.inFlight)
    (see : Window → Window)
    (used : (see c.window).maxInFlight = max c.window.maxInFlight c.inFlight) :
    let d := (c.observe clock see).1
    d.IsSteady s (c.now clock) ∧ c.deadline ≤ d.deadline ∧
      (c.now clock < d.deadline ∨ c.now clock = Word64.largest) := by
  intro d
  have observed : d = _ := congrArg Prod.fst (observe_of_learning h.learning clock see)
  by_cases closes : (Learning.ofSettings s).closes (c.now clock) c.deadline (see c.window) = true
  · rw [observed, if_pos closes]
    have bounds := LimitRule.between_clamp (LimitRule.minLimit_le_maxLimit s)
      ((LimitRule.ofSettings s).wanted c.limit (see c.window))
    refine ⟨?_, h.deadline_le, Learning.lt_due s (Span.wordNanos_le _)⟩
    exact
      { learning := h.learning
        least := bounds.1
        greatest := bounds.2
        inFlight_le := h.inFlight_le
        events_lt := Nat.lt_of_lt_of_le Nat.zero_lt_one (Nat.le_max_right _ _)
        mixed := rfl
        used_le := Nat.zero_le _
        used_pos := nofun
        deadline_le := Nat.le_refl _ }
  · rw [observed, if_neg closes]
    obtain ⟨mixed, room, ahead⟩ := Learning.of_not_closes closes
    refine ⟨?_, Nat.le_refl _, .inl ahead⟩
    exact
      { h with
        events_lt := room
        mixed := mixed
        used_le := by
          show (see c.window).maxInFlight ≤ _
          rw [used]
          exact Nat.max_le.mpr ⟨h.used_le, h.inFlight_le⟩
        used_pos := fun _ => by
          show 1 ≤ (see c.window).maxInFlight
          rw [used]
          exact Nat.le_trans out (Nat.le_max_right _ _) }

/-- The end of a permit leaves a limiter steady, and its deadline no earlier. If it tells something,
the window that is open afterwards is not due. -/
theorem IsSteady.release (h : c.IsSteady s (c.now clock)) (out : 0 < c.inFlight)
    (completion : Completion) :
    let d := (c.release clock completion).1
    d.IsSteady s (c.now clock) ∧ c.deadline ≤ d.deadline ∧
      (completion ≠ .ignored → c.now clock < d.deadline ∨ c.now clock = Word64.largest) := by
  cases completion with
  | success rtt =>
    obtain ⟨steady, later, ahead⟩ := h.observe out (·.addSample rtt c.inFlight) rfl
    exact ⟨steady.giveBack, later, fun _ => ahead⟩
  | dropped =>
    obtain ⟨steady, later, ahead⟩ := h.observe out (·.addDrop c.inFlight) rfl
    exact ⟨steady.giveBack, later, fun _ => ahead⟩
  | ignored => exact ⟨h.giveBack, Nat.le_refl _, fun told => absurd rfl told⟩

end Controller

/-! ## Turns -/

namespace Turn

variable {s : LimiterSettings} {turn : Turn} {c d : Controller} {clock later : Clock}

theorem take?_steady (took : turn.take? c clock = some (d, later))
    (h : c.IsSteady s (c.now clock)) :
    d.IsSteady s (d.now later) ∧ c.deadline ≤ d.deadline ∧
      ∀ completion, turn = .release completion → completion ≠ .ignored →
        d.now later < d.deadline ∨ d.now later = Word64.largest := by
  rcases take?_cases took with ⟨rfl, room, rfl, rfl⟩ | ⟨completion, rfl, out, rfl, rfl⟩ |
    ⟨span, rfl, rfl, rfl⟩
  · exact ⟨h.lend room, Nat.le_refl _, nofun⟩
  · obtain ⟨steady, later', ahead⟩ := h.release out completion
    have same : (c.release later completion).1.now later = c.now later := by
      rw [Controller.now, Controller.created_release]
      rfl
    rw [same]
    refine ⟨steady, later', ?_⟩
    rintro _ ⟨⟩ told
    exact ahead told
  · have passes : d.now clock ≤ d.now (clock.advance span) := by
      show min (_ - _) Word64.largest ≤ min (_ + _ - _) Word64.largest
      omega
    exact ⟨h.pass passes, Nat.le_refl _, nofun⟩

theorem takeAll?_steady {turns : List Turn} (taken : takeAll? turns c clock = some (d, later))
    (h : c.IsSteady s (c.now clock)) : d.IsSteady s (d.now later) := by
  induction turns generalizing c clock with
  | nil =>
    cases taken
    exact h
  | cons turn rest ih =>
    obtain ⟨⟨next, now⟩, took, onward⟩ := Option.bind_eq_some_iff.mp taken
    exact ih onward (take?_steady took h).1

/-- What holds of a limiter between any two of its turns. The limit is within the bounds of the
rule. The open window holds fewer reports than close one, and no drop without a round trip; its
reports saw no more permits out than the greatest limit, and at least one if there are any. Its
deadline is at most the length of a window ahead. No turn moves the deadline back, and after a
report it is still ahead, unless the moments are used up. -/
theorem steady_between_turns {name : String} {turns : List Turn}
    (taken : takeAll? turns (Controller.adaptive name s clock).1 clock = some (c, later)) :
    let r := LimitRule.ofSettings s
    (r.minLimit ≤ c.limit ∧ c.limit ≤ r.maxLimit) ∧
    c.window.events < max s.windowSamples.toNat 1 ∧
    (c.window.drops ≠ 0 → c.window.samples ≠ 0) ∧
    c.window.maxInFlight ≤ r.maxLimit ∧ (c.window.events ≠ 0 → 1 ≤ c.window.maxInFlight) ∧
    c.deadline ≤ s.due (c.now later) ∧
    ∀ (turn : Turn) (d : Controller) (after : Clock), turn.take? c later = some (d, after) →
      c.deadline ≤ d.deadline ∧
      ∀ completion, turn = .release completion → completion ≠ .ignored →
        d.now after < d.deadline ∨ d.now after = Word64.largest := by
  intro r
  have born : (Controller.adaptive name s clock).1.now clock = 0 := by
    show min (clock.elapsed - clock.elapsed) Word64.largest = 0
    rw [Nat.sub_self]
    rfl
  have steady : c.IsSteady s (c.now later) :=
    takeAll?_steady taken (born ▸ Controller.adaptive_isSteady name s clock)
  refine ⟨⟨steady.least, steady.greatest⟩, steady.events_lt,
    Window.samples_ne_zero steady.mixed, steady.used_le, steady.used_pos, ?_, ?_⟩
  · rw [← Learning.due_eq]
    exact steady.deadline_le
  · intro turn d after took
    exact (take?_steady took steady).2

/-- A round trip and a drop beside it in a window that is still open, and a second round trip, told
when the window is long due, that closes it. -/
theorem steady_between_turns_due :
    let turns : List Turn := [.grant, .grant, .grant, .advance (.ofMillis 5),
      .release (.success (.ofMillis 3)), .release .dropped, .advance (.ofMillis 4000)]
    let last : Turn := .release (.success (.ofMillis 9))
    ∃ c d later, takeAll? turns (Controller.adaptive "orders" {} ⟨0, 7⟩).1 ⟨0, 7⟩ =
        some (c, later) ∧
      last.take? c later = some (d, later) ∧
      c.window.events = 2 ∧ c.window.samples ≠ 0 ∧ 1 ≤ c.window.maxInFlight ∧
      c.deadline = 1000000000 ∧ c.now later = 4005000000 ∧ d.window.events = 0 ∧
      c.deadline ≤ d.deadline ∧ (d.now later < d.deadline ∨ d.now later = Word64.largest) := by
  intro turns last
  refine ⟨_, _, _, rfl, rfl, ?_⟩
  obtain ⟨_, _, sampled, _, used, _, onward⟩ :=
    @steady_between_turns {} _ ⟨0, 7⟩ _ "orders" turns rfl
  obtain ⟨later, ahead⟩ := onward last _ _ rfl
  exact ⟨rfl, sampled (by decide +kernel), used (by decide +kernel), rfl, rfl, rfl, later,
    ahead _ rfl nofun⟩

end Turn
end Failover
