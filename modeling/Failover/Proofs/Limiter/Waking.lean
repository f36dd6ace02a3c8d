import Failover.Proofs.Limiter.Lending

/-!
# Waking those who wait

A caller who waits comes back to the desk only after it was woken, and it is woken when a permit
comes back. Whether a caller was woken since it last came can be read off the acts alone; the
limiter and its callers tell it by counting signals, and both agree. A caller who was not woken
waits at a full desk: the desk was full when the caller came, and every act that could make room
wakes all who wait.
-/

namespace Failover

/-! ## What the acts tell -/

namespace Act

/-- Whether an act wakes those who wait. -/
def wakes : Act → Bool
  | .release _ => true
  | _ => false

/-- Whether a caller comes to the desk with an act, for the first time or again. -/
def brings (caller : Nat) : Act → Bool
  | .ask other | .askAgain other => other == caller
  | _ => false

/-- Whether a caller has come in the course of these acts and nobody was woken since it last
came. -/
def unwoken (caller : Nat) (acts : List Act) : Bool :=
  acts.foldl (fun still act => act.brings caller || !act.wakes && still) false

theorem unwoken_concat (caller : Nat) (acts : List Act) (act : Act) :
    unwoken caller (acts ++ [act]) = (act.brings caller || !act.wakes && unwoken caller acts) :=
  List.foldl_append

end Act

/-! ## Signals -/

/-- Every permit that comes back gives a signal. -/
theorem Controller.signals_lt_release (c : Controller) (clock : Clock) (completion : Completion) :
    c.signals < (c.release clock completion).1.signals := by
  have observed : ∀ see, c.signals ≤ (c.observe clock see).1.signals := by
    intro see
    unfold observe
    split
    · exact Nat.le_refl _
    · simp only
      split
      · simp only [roll]
        split
        · exact Nat.le_succ _
        · exact Nat.le_refl _
      · exact Nat.le_refl _
  have learned : c.signals ≤ (c.learn clock completion).1.signals := by
    cases completion with
    | success rtt => exact observed _
    | dropped => exact observed _
    | ignored => exact Nat.le_refl _
  exact Nat.lt_succ_of_le learned

namespace Desk

variable {d next last : Desk} {acts more : List Act} {act : Act} {caller : Nat}
  {s : LimiterSettings} {name : String} {clock : Clock}

/-! ## What every act keeps -/

/-- What holds of all who wait after these acts: the signals that they know of are those given so
far exactly if nobody was woken since they came, and then there is no room. -/
structure IsWatched (d : Desk) (acts : List Act) : Prop where
  known : ∀ w ∈ d.waiting, w.2 ≤ d.limiter.signals
  unwoken : ∀ w ∈ d.waiting, w.2 = d.limiter.signals ↔ Act.unwoken w.1 acts = true
  full : ∀ w ∈ d.waiting, w.2 = d.limiter.signals → d.IsFull

theorem opened_isWatched (name : String) (s : LimiterSettings) (clock : Clock) :
    (opened name s clock).IsWatched [] := ⟨nofun, nofun, nofun⟩

theorem IsWatched.without (h : d.IsWatched acts) (caller : Nat) :
    (d.without caller).IsWatched acts where
  known w among := h.known w (List.mem_filter.mp among).1
  unwoken w among := h.unwoken w (List.mem_filter.mp among).1
  full w among := h.full w (List.mem_filter.mp among).1

/-- An act that wakes nobody, and with which none of those who wait comes, tells them nothing. -/
theorem IsWatched.concat (h : d.IsWatched acts) (still : act.wakes = false)
    (absent : ∀ w ∈ d.waiting, act.brings w.1 = false) : d.IsWatched (acts ++ [act]) where
  known := h.known
  unwoken w among := by
    rw [h.unwoken w among, Act.unwoken_concat, absent w among, still]
    rfl
  full := h.full

theorem notMem_callers_without (d : Desk) (caller : Nat) : caller ∉ (d.without caller).callers := by
  simp [callers, without]

/-- A caller who is answered either gets a permit, and then those who wait have all been woken, or
is added to those who wait at a full desk. -/
theorem IsWatched.answer (h : d.IsWatched acts) (absent : caller ∉ d.callers)
    (brings : ∀ other, act.brings other = (caller == other)) (still : act.wakes = false) :
    (d.answer caller).IsWatched (acts ++ [act]) := by
  have others : ∀ w ∈ d.waiting, act.brings w.1 = false := by
    intro w among
    rw [brings, beq_eq_false_iff_ne]
    rintro rfl
    exact absent (List.mem_map_of_mem among)
  have told := h.concat still others
  by_cases room : d.limiter.inFlight < d.limiter.limit
  · rw [answer_of_room room]
    refine ⟨told.known, told.unwoken, fun w among same => ?_⟩
    exact absurd (h.full w among same) (Nat.not_le_of_lt room)
  · have full : d.IsFull := Nat.le_of_not_lt room
    rw [answer_of_full full]
    cases d.limiter.mode with
    | rejecting => exact told
    | blocking =>
      refine ⟨?_, ?_, fun _ _ _ => full⟩
      · rintro w (_ | ⟨_, before⟩)
        · exact Nat.le_refl _
        · exact told.known w before
      · rintro w (_ | ⟨_, before⟩)
        · refine iff_of_true rfl ?_
          rw [Act.unwoken_concat, brings, beq_self_eq_true, Bool.true_or]
        · exact told.unwoken w before

/-- A permit that comes back wakes all who wait. -/
theorem IsWatched.release (h : d.IsWatched acts) (completion : Completion) :
    IsWatched { d with limiter := (d.limiter.release d.clock completion).1 }
      (acts ++ [.release completion]) := by
  have signals := d.limiter.signals_lt_release d.clock completion
  have behind : ∀ w ∈ d.waiting, w.2 < (d.limiter.release d.clock completion).1.signals :=
    fun w among => Nat.lt_of_le_of_lt (h.known w among) signals
  refine ⟨fun w among => Nat.le_of_lt (behind w among), fun w among => ?_, fun w among same => ?_⟩
  · refine iff_of_false (Nat.ne_of_lt (behind w among)) ?_
    rw [Act.unwoken_concat]
    exact Bool.false_ne_true
  · exact absurd same (Nat.ne_of_lt (behind w among))

theorem Step.isWatched (step : Step d act next) (h : d.IsWatched acts) :
    next.IsWatched (acts ++ [act]) := by
  cases step with
  | ask new => exact h.answer new (fun _ => rfl) rfl
  | askAgain waits woken =>
    exact (h.without _).answer (notMem_callers_without d _) (fun _ => rfl) rfl
  | leave waits => exact (h.without _).concat rfl fun _ _ => rfl
  | release out => exact h.release _
  | @advance span =>
    have told : d.IsWatched (acts ++ [.advance span]) := h.concat rfl fun _ _ => rfl
    exact ⟨told.known, told.unwoken, told.full⟩

theorem RunWhile.isWatched {P : Desk → Prop} (run : RunWhile P d more last)
    (h : d.IsWatched acts) : last.IsWatched (acts ++ more) := by
  -- the induction is on the acts to come, with any acts behind them
  induction run generalizing acts with
  | done => rwa [List.append_nil]
  | @goes _ _ _ act _ _ step _ ih =>
    rw [← List.singleton_append, ← List.append_assoc]
    exact ih (step.isWatched h)

/-! ## The main result -/

/-- However callers come, come again, give up and bring permits back, a caller who waits and was not
woken since it last came waits at a full desk, and exactly those who were woken come again; whoever
is looked at before just goes on waiting, which is no act. So there is never room while somebody
waits whom nothing will bring back: then every one of those who wait was woken, and whichever comes
first gets a permit. -/
theorem no_wakeup_lost (run : Run (opened name s clock) acts d) :
    (∀ caller ∈ d.callers,
      Act.unwoken caller acts = true → d.limiter.limit ≤ d.limiter.inFlight) ∧
    (∀ caller ∈ d.callers,
      (∃ next, Step d (.askAgain caller) next) ↔ Act.unwoken caller acts = false) ∧
    (d.limiter.inFlight < d.limiter.limit → ∀ caller ∈ d.callers, ∃ next,
      Step d (.askAgain caller) next ∧ next.limiter.inFlight = d.limiter.inFlight + 1 ∧
      next.lent = d.limiter.limit :: d.lent ∧ caller ∉ next.callers) := by
  have watched : d.IsWatched acts := run.isWatched (opened_isWatched name s clock)
  refine ⟨?_, ?_, ?_⟩
  · intro caller waits unwoken
    obtain ⟨w, among, rfl⟩ := List.mem_map.mp waits
    exact watched.full w among ((watched.unwoken w among).mpr unwoken)
  · intro caller waits
    rw [Bool.eq_false_iff]
    constructor
    · rintro ⟨_, step⟩
      cases step with
      | askAgain among woken => exact fun unwoken => woken ((watched.unwoken _ among).mpr unwoken)
    · intro woken
      obtain ⟨⟨_, signals⟩, among, rfl⟩ := List.mem_map.mp waits
      exact ⟨_, .askAgain among fun same => woken ((watched.unwoken _ among).mp same)⟩
  · intro room caller waits
    obtain ⟨⟨caller, signals⟩, among, rfl⟩ := List.mem_map.mp waits
    have woken : signals ≠ d.limiter.signals := fun same =>
      absurd (watched.full _ among same) (Nat.not_le_of_lt room)
    have room' : (d.without caller).limiter.inFlight < (d.without caller).limiter.limit := room
    refine ⟨_, .askAgain among woken, ?_⟩
    rw [answer_of_room room']
    exact ⟨rfl, rfl, notMem_callers_without d _⟩

/-- Two callers wait and are woken by a permit that comes back, so that either may have it; when a
newcomer takes it, the one that comes again waits unwoken at a full desk, and the other has still to
come. -/
theorem no_wakeup_lost_late :
    let early : List Act := [.ask 0, .ask 1, .ask 2, .release .ignored]
    let late : List Act := [.ask 0, .ask 1, .ask 2, .release .ignored, .ask 3, .askAgain 1]
    ∃ d last, Run (opened "orders" { initialLimit := 1 } ⟨0, 0⟩) early d ∧
      Run (opened "orders" { initialLimit := 1 } ⟨0, 0⟩) late last ∧
      d.limiter.inFlight < d.limiter.limit ∧
      (∃ next, Step d (.askAgain 1) next ∧ next.limiter.inFlight = d.limiter.inFlight + 1 ∧
        next.lent = d.limiter.limit :: d.lent ∧ 1 ∉ next.callers) ∧
      1 ∈ last.callers ∧ Act.unwoken 1 late = true ∧ last.limiter.limit ≤ last.limiter.inFlight ∧
      2 ∈ last.callers ∧ ∃ next, Step last (.askAgain 2) next := by
  intro early late
  have before : Run (opened "orders" { initialLimit := 1 } ⟨0, 0⟩) early _ :=
    .goes trivial (.ask (by decide)) (.goes trivial (.ask (by decide +kernel))
      (.goes trivial (.ask (by decide +kernel))
        (.goes trivial (.release (by decide +kernel)) .done)))
  have after : Run (opened "orders" { initialLimit := 1 } ⟨0, 0⟩) late _ :=
    .goes trivial (.ask (by decide)) (.goes trivial (.ask (by decide +kernel))
      (.goes trivial (.ask (by decide +kernel)) (.goes trivial (.release (by decide +kernel))
        (.goes trivial (.ask (by decide +kernel))
          (.goes trivial (@Step.askAgain _ 1 0 (by decide +kernel) (by decide +kernel)) .done)))))
  obtain ⟨_, _, room⟩ := no_wakeup_lost before
  obtain ⟨full, again, _⟩ := no_wakeup_lost after
  exact ⟨_, _, before, after, by decide +kernel,
    room (by decide +kernel) 1 (by decide +kernel), by decide +kernel, rfl,
    full 1 (by decide +kernel) rfl, by decide +kernel,
    (again 2 (by decide +kernel)).mpr rfl⟩

end Desk
end Failover
