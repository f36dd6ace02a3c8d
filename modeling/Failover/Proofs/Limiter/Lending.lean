import Failover.Proofs.Limiter.Frame

/-!
# Lending below a limit

Callers come to a limiter for permits, wait where its mode has them wait, ask again once they are
woken, and bring permits back while time passes. The limit moves under the permits that are out, so
that more of them can be out than it allows. What holds instead: a permit is lent only below the
limit of the moment, so that no more are out than the limit allowed when the last one was lent; and
as long as there is no room nobody gets one, and those who wait go on waiting.
-/

namespace Failover

/-! ## One limiter -/

namespace Controller

variable {c d : Controller}

/-- With room a permit is lent. -/
theorem acquire_of_room (room : c.inFlight < c.limit) :
    c.acquire.1 = .granted ∧ c.acquire.2.1 = { c with inFlight := c.inFlight + 1 } := by
  rw [acquire, tryAcquire, hasRoom, if_pos (by simpa using room)]
  exact ⟨rfl, rfl⟩

/-- Without room the mode answers, and the limiter is left as it is. -/
theorem acquire_of_full (full : c.limit ≤ c.inFlight) :
    c.acquire.1 = (match c.mode with
      | .rejecting => .refused ⟨c.name, c.limit⟩
      | .blocking => .waiting c.signals) ∧
    c.acquire.2.1 = c := by
  rw [acquire, tryAcquire, hasRoom, if_neg (by simpa using full)]
  cases c.mode <;> exact ⟨rfl, rfl⟩

/-- A permit is lent exactly if there is room. -/
theorem acquire_granted_iff : c.acquire.1 = .granted ↔ c.inFlight < c.limit := by
  refine ⟨fun granted => Nat.lt_of_not_le fun full => ?_, fun room => (acquire_of_room room).1⟩
  rw [(acquire_of_full full).1] at granted
  split at granted <;> cases granted

/-- A report leaves the limit alone or sets it by a window, and changes nothing that a limiter is
made with. -/
theorem observe_cases (c : Controller) (clock : Clock) (see : Window → Window) :
    let d := (c.observe clock see).1
    d.name = c.name ∧ d.mode = c.mode ∧ d.learning = c.learning ∧
    (d.limit = c.limit ∨
      ∃ l, c.learning = some l ∧ d.limit = l.rule.update c.limit (see c.window)) := by
  unfold observe
  split
  · exact ⟨rfl, rfl, rfl, .inl rfl⟩
  · rename_i l learning
    simp only
    split
    · exact ⟨rfl, rfl, rfl, .inr ⟨l, learning, rfl⟩⟩
    · exact ⟨rfl, rfl, rfl, .inl rfl⟩

/-- The end of a permit leaves the limit alone or sets it by a window. -/
theorem release_cases (c : Controller) (clock : Clock) (completion : Completion) :
    let d := (c.release clock completion).1
    d.name = c.name ∧ d.mode = c.mode ∧ d.learning = c.learning ∧
    (d.limit = c.limit ∨ ∃ l w, c.learning = some l ∧ d.limit = l.rule.update c.limit w) := by
  have observed : ∀ see, (c.learn clock completion).1 = (c.observe clock see).1 →
      let d := (c.release clock completion).1
      d.name = c.name ∧ d.mode = c.mode ∧ d.learning = c.learning ∧
      (d.limit = c.limit ∨ ∃ l w, c.learning = some l ∧ d.limit = l.rule.update c.limit w) := by
    intro see learned
    obtain ⟨name, mode, learning, limit⟩ := observe_cases c clock see
    rw [← learned] at name mode learning limit
    exact ⟨name, mode, learning, limit.imp_right fun ⟨l, known, set⟩ => ⟨l, _, known, set⟩⟩
  cases completion with
  | success rtt => exact observed _ rfl
  | dropped => exact observed _ rfl
  | ignored => exact ⟨rfl, rfl, rfl, .inl rfl⟩

/-- The rule of the settings moves a limit within its bounds. -/
theorem limit_release {s : LimiterSettings} (learns : c.learning = some (.ofSettings s))
    (clock : Clock) (completion : Completion) :
    let r := LimitRule.ofSettings s
    let limit := (c.release clock completion).1.limit
    limit = c.limit ∨ (r.minLimit ≤ limit ∧ limit ≤ r.maxLimit) := by
  intro r limit
  obtain ⟨_, _, _, same | ⟨l, w, known, set⟩⟩ := c.release_cases clock completion
  · exact .inl same
  · rw [learns] at known
    cases known
    have moved : limit = r.clamp (r.wanted c.limit w) := set
    rw [moved]
    exact .inr (LimitRule.between_clamp (LimitRule.minLimit_le_maxLimit s) _)

/-- A drop is seen by the window. Either that closes it and sets the limit, or it stays open, which
it does only if it holds a sample. -/
theorem release_dropped {l : Learning} (learns : c.learning = some l) (clock : Clock) :
    let seen := c.window.addDrop c.inFlight
    let d := (c.release clock .dropped).1
    (d.limit = l.rule.update c.limit seen ∧ d.window = .empty) ∨
    (c.window.samples ≠ 0 ∧ d.limit = c.limit ∧ d.window = seen) := by
  intro seen d
  have observed : (c.learn clock .dropped).1 =
      (if l.closes (c.now clock) c.deadline seen then
        ({ c with window := seen } : Controller).roll l (c.now clock)
      else ({ c with window := seen }, [])).1 :=
    congrArg Prod.fst (observe_of_learning learns clock (·.addDrop c.inFlight))
  have limit : d.limit = (c.learn clock .dropped).1.limit := rfl
  have window : d.window = (c.learn clock .dropped).1.window := rfl
  rw [limit, window, observed]
  by_cases closes : l.closes (c.now clock) c.deadline seen = true
  · rw [if_pos closes]
    exact .inl ⟨rfl, rfl⟩
  · rw [if_neg closes]
    refine .inr ⟨fun unsampled => closes ?_, rfl, rfl⟩
    have dropOnly : seen.isDropOnly = true := by
      simp [seen, Window.isDropOnly, Window.didDrop, Window.addDrop, unsampled]
    rw [Learning.closes, dropOnly]
    rfl

end Controller

/-! ## Callers at a desk -/

/-- A limiter with the callers who wait for its permits, each with the signals that it knows of, and
the limits under which permits were lent so far, the last first. -/
structure Desk where
  limiter : Controller
  clock : Clock
  waiting : List (Nat × Nat)
  lent : List Nat

/-- What can happen at a desk: a caller asks for a permit, asks again after it was woken, or gives
up; a permit comes back; time passes. -/
inductive Act where
  | ask (caller : Nat)
  | askAgain (caller : Nat)
  | leave (caller : Nat)
  | release (completion : Completion)
  | advance (span : Span)

namespace Desk

/-- A limiter that nobody has asked yet. -/
def opened (name : String) (s : LimiterSettings) (clock : Clock) : Desk :=
  ⟨(Controller.adaptive name s clock).1, clock, [], []⟩

/-- Those who wait. -/
def callers (d : Desk) : List Nat := d.waiting.map (·.1)

/-- Whether as many permits are out as the limit allows, or more. -/
def IsFull (d : Desk) : Prop := d.limiter.limit ≤ d.limiter.inFlight

/-- The desk after a caller has got this answer. -/
def answer (d : Desk) (caller : Nat) : Desk :=
  let limiter := d.limiter.acquire.2.1
  match d.limiter.acquire.1 with
  | .granted => { d with limiter, lent := d.limiter.limit :: d.lent }
  | .refused _ => { d with limiter }
  | .waiting signals => { d with limiter, waiting := (caller, signals) :: d.waiting }

/-- The desk without a caller. -/
def without (d : Desk) (caller : Nat) : Desk :=
  { d with waiting := d.waiting.filter (·.1 ≠ caller) }

/-- One act after another. Only a permit that is out comes back, and only who was woken asks
again. -/
inductive Step (d : Desk) : Act → Desk → Prop
  | ask {caller : Nat} (new : caller ∉ d.callers) : Step d (.ask caller) (d.answer caller)
  | askAgain {caller signals : Nat} (waits : (caller, signals) ∈ d.waiting)
      (woken : signals ≠ d.limiter.signals) :
      Step d (.askAgain caller) ((d.without caller).answer caller)
  | leave {caller : Nat} (waits : caller ∈ d.callers) : Step d (.leave caller) (d.without caller)
  | release {completion : Completion} (out : 0 < d.limiter.inFlight) :
      Step d (.release completion)
        { d with limiter := (d.limiter.release d.clock completion).1 }
  | advance {span : Span} : Step d (.advance span) { d with clock := d.clock.advance span }

/-- Acts in order, each of them at a desk of which `P` holds. -/
inductive RunWhile (P : Desk → Prop) : Desk → List Act → Desk → Prop
  | done {d : Desk} : RunWhile P d [] d
  | goes {d next last : Desk} {act : Act} {acts : List Act} (here : P d) (step : Step d act next)
      (rest : RunWhile P next acts last) : RunWhile P d (act :: acts) last

/-- Any acts in order. -/
abbrev Run : Desk → List Act → Desk → Prop := RunWhile fun _ => True

variable {d next last : Desk} {s : LimiterSettings} {name : String}

theorem answer_of_room (room : d.limiter.inFlight < d.limiter.limit) (caller : Nat) :
    d.answer caller =
      { d with
        limiter := { d.limiter with inFlight := d.limiter.inFlight + 1 }
        lent := d.limiter.limit :: d.lent } := by
  obtain ⟨granted, lent⟩ := Controller.acquire_of_room room
  rw [answer, granted, lent]

theorem answer_of_full (full : d.IsFull) (caller : Nat) :
    d.answer caller = match d.limiter.mode with
      | .rejecting => d
      | .blocking => { d with waiting := (caller, d.limiter.signals) :: d.waiting } := by
  obtain ⟨answered, same⟩ := Controller.acquire_of_full full
  rw [answer, answered, same]
  cases d.limiter.mode <;> rfl

/-! ## What every act keeps -/

/-- What holds of a desk whose limiter was made with these settings: the limit is below its bound,
and no more permits are out than the limit allowed when the last one was lent. Nobody waits unless
the mode says so. -/
structure IsSafe (s : LimiterSettings) (name : String) (d : Desk) : Prop where
  name_eq : d.limiter.name = name
  mode_eq : d.limiter.mode = s.mode
  learning : d.limiter.learning = some (.ofSettings s)
  limit_le : d.limiter.limit ≤ (LimitRule.ofSettings s).maxLimit
  lent_le : ∀ limit ∈ d.lent, limit ≤ (LimitRule.ofSettings s).maxLimit
  inFlight_le : d.limiter.inFlight ≤ d.lent.headD 0
  unwaited : s.mode = .rejecting → d.waiting = []

theorem opened_isSafe (name : String) (s : LimiterSettings) (clock : Clock) :
    (opened name s clock).IsSafe s name where
  name_eq := rfl
  mode_eq := rfl
  learning := rfl
  limit_le := (LimitRule.between_clamp (LimitRule.minLimit_le_maxLimit s) _).2
  lent_le := nofun
  inFlight_le := Nat.le_refl 0
  unwaited := fun _ => rfl

theorem IsSafe.without (h : d.IsSafe s name) (caller : Nat) : (d.without caller).IsSafe s name where
  name_eq := h.name_eq
  mode_eq := h.mode_eq
  learning := h.learning
  limit_le := h.limit_le
  lent_le := h.lent_le
  inFlight_le := h.inFlight_le
  unwaited := fun rejecting => by
    show d.waiting.filter _ = []
    rw [h.unwaited rejecting]
    rfl

/-- A permit that is lent is one more than were out below the limit. -/
theorem IsSafe.answer (h : d.IsSafe s name) (caller : Nat) : (d.answer caller).IsSafe s name := by
  by_cases room : d.limiter.inFlight < d.limiter.limit
  · rw [answer_of_room room]
    refine ⟨h.name_eq, h.mode_eq, h.learning, h.limit_le, ?_, room, h.unwaited⟩
    rintro limit (_ | ⟨_, before⟩)
    · exact h.limit_le
    · exact h.lent_le limit before
  · rw [answer_of_full (Nat.le_of_not_lt room), h.mode_eq]
    cases hm : s.mode with
    | rejecting => exact h
    | blocking =>
      exact ⟨h.name_eq, h.mode_eq, h.learning, h.limit_le, h.lent_le, h.inFlight_le,
        fun rejecting => absurd (hm.symm.trans rejecting) nofun⟩

/-- A permit that comes back may move the limit, within its bounds. -/
theorem IsSafe.release (h : d.IsSafe s name) (completion : Completion) :
    IsSafe s name { d with limiter := (d.limiter.release d.clock completion).1 } := by
  obtain ⟨sameName, mode, learning, _⟩ := d.limiter.release_cases d.clock completion
  refine ⟨sameName.trans h.name_eq, mode.trans h.mode_eq, learning.trans h.learning, ?_,
    h.lent_le, ?_, h.unwaited⟩
  · rcases Controller.limit_release h.learning d.clock completion with same | ⟨_, within⟩
    · exact Nat.le_trans (Nat.le_of_eq same) h.limit_le
    · exact within
  · show (d.limiter.release d.clock completion).1.inFlight ≤ _
    rw [Controller.inFlight_release]
    exact Nat.le_trans (Nat.sub_le _ 1) h.inFlight_le

theorem Step.isSafe {act : Act} (step : Step d act next) (h : d.IsSafe s name) :
    next.IsSafe s name := by
  cases step with
  | ask new => exact h.answer _
  | askAgain waits woken => exact (h.without _).answer _
  | leave waits => exact h.without _
  | release out => exact h.release _
  | advance => exact { h with }

theorem RunWhile.isSafe {P : Desk → Prop} {acts : List Act} (run : RunWhile P d acts last)
    (h : d.IsSafe s name) : last.IsSafe s name := by
  induction run with
  | done => exact h
  | goes _ step _ ih => exact ih (step.isSafe h)

/-! ## While there is no room -/

theorem mem_callers_without {caller other : Nat} (h : caller ∈ d.callers) (ne : caller ≠ other) :
    caller ∈ (d.without other).callers := by
  obtain ⟨⟨_, signals⟩, waits, rfl⟩ := List.mem_map.mp h
  exact List.mem_map.mpr ⟨_, List.mem_filter.mpr ⟨waits, by simpa using ne⟩, rfl⟩

/-- A caller who is answered at a full desk waits there from then on, with those who waited. -/
theorem mem_callers_answer {caller other : Nat} (full : d.IsFull)
    (blocking : d.limiter.mode = .blocking) :
    caller ∈ (d.answer other).callers ↔ caller = other ∨ caller ∈ d.callers := by
  rw [answer_of_full full, blocking]
  exact List.mem_cons

/-- At a full desk nobody gets a permit. Whoever waits there waits on, and whoever comes there
waits, but for those who give up. -/
theorem Step.stays {act : Act} (step : Step d act next) (full : d.IsFull)
    (h : d.IsSafe s name) :
    next.lent = d.lent ∧ (s.mode = .blocking → ∀ caller, act ≠ .leave caller →
      caller ∈ d.callers ∨ act = .ask caller → caller ∈ next.callers) := by
  have lent : ∀ other, (d.answer other).lent = d.lent := by
    intro other
    rw [answer_of_full full]
    split <;> rfl
  have mode := h.mode_eq
  cases step with
  | ask new =>
    refine ⟨lent _, fun blocking caller _ comes => ?_⟩
    rw [mem_callers_answer full (mode.trans blocking)]
    exact comes.symm.imp_left fun same => by injection same with same; exact same.symm
  | @askAgain other signals waits woken =>
    have full' : (d.without other).IsFull := full
    refine ⟨?_, fun blocking caller _ comes => ?_⟩
    · rw [answer_of_full full']
      split <;> rfl
    · rw [mem_callers_answer full' (mode.trans blocking)]
      by_cases same : caller = other
      · exact .inl same
      · exact .inr (mem_callers_without (comes.resolve_right nofun) same)
  | @leave other waits =>
    refine ⟨rfl, fun _ caller stays comes => ?_⟩
    refine mem_callers_without (comes.resolve_right nofun) ?_
    rintro rfl
    exact stays rfl
  | release out => exact ⟨rfl, fun _ caller _ comes => comes.resolve_right nofun⟩
  | advance => exact ⟨rfl, fun _ caller _ comes => comes.resolve_right nofun⟩

theorem RunWhile.stays {acts : List Act} (run : RunWhile IsFull d acts last)
    (h : d.IsSafe s name) :
    last.lent = d.lent ∧ (s.mode = .blocking → ∀ caller, .leave caller ∉ acts →
      caller ∈ d.callers ∨ .ask caller ∈ acts → caller ∈ last.callers) := by
  induction run with
  | done => exact ⟨rfl, fun _ caller _ comes => comes.resolve_right List.not_mem_nil⟩
  | @goes d next last act acts full step _ ih =>
    obtain ⟨lent, waits⟩ := step.stays full h
    obtain ⟨later, waitsOn⟩ := ih (step.isSafe h)
    refine ⟨later.trans lent, fun blocking caller stays comes => ?_⟩
    have here : act ≠ .leave caller := fun same => stays (same ▸ List.mem_cons_self)
    refine waitsOn blocking caller (fun leaves => stays (List.mem_cons_of_mem _ leaves)) ?_
    rcases comes with waiting | asks
    · exact .inl (waits blocking caller here (.inl waiting))
    · rcases List.mem_cons.mp asks with now | later
      · exact .inl (waits blocking caller here (.inr now.symm))
      · exact .inr later

/-! ## The main result -/

/-- However a limiter is asked for permits and gets them back, a permit is lent exactly when fewer
are out than its limit at that moment, and otherwise the mode answers. So no more are out than the
limit was when the last one was lent, none if none was, and never more than the greatest limit of
the settings, however the limit is cut. On every way on that never comes to have room nobody gets a
permit: who asks is refused, or waits as long as it does not give up. -/
theorem lends_below_limit {clock : Clock} {acts : List Act}
    (run : Run (opened name s clock) acts d) :
    (d.limiter.acquire.1 = .granted ↔ d.limiter.inFlight < d.limiter.limit) ∧
    (s.mode = .rejecting → d.limiter.limit ≤ d.limiter.inFlight →
      d.limiter.acquire.1 = .refused ⟨name, d.limiter.limit⟩) ∧
    (s.mode = .blocking → d.limiter.limit ≤ d.limiter.inFlight →
      d.limiter.acquire.1 = .waiting d.limiter.signals) ∧
    d.limiter.inFlight ≤ d.lent.headD 0 ∧
    d.limiter.inFlight ≤ (LimitRule.ofSettings s).maxLimit ∧
    (1 ≤ s.maxLimit.toNat → s.minLimit.toNat ≤ s.maxLimit.toNat →
      d.limiter.inFlight ≤ s.maxLimit.toNat) ∧
    (s.mode = .rejecting → d.callers = []) ∧
    ∀ further last, RunWhile IsFull d further last →
      last.lent = d.lent ∧ (s.mode = .blocking → ∀ caller, .leave caller ∉ further →
        caller ∈ d.callers ∨ .ask caller ∈ further → caller ∈ last.callers) := by
  have safe := run.isSafe (opened_isSafe name s clock)
  have bounded : d.limiter.inFlight ≤ (LimitRule.ofSettings s).maxLimit := by
    refine Nat.le_trans safe.inFlight_le ?_
    cases hl : d.lent with
    | nil => exact Nat.zero_le _
    | cons limit before => exact safe.lent_le limit (by rw [hl]; exact List.mem_cons_self)
  refine ⟨Controller.acquire_granted_iff, ?_, ?_, safe.inFlight_le, bounded, ?_, ?_, ?_⟩
  · intro rejecting full
    rw [(Controller.acquire_of_full full).1, safe.mode_eq, rejecting, safe.name_eq]
  · intro blocking full
    rw [(Controller.acquire_of_full full).1, safe.mode_eq, blocking]
  · intro one between
    refine Nat.le_trans bounded ?_
    show max s.maxLimit.toNat (max s.minLimit.toNat 1) ≤ _
    omega
  · intro rejecting
    rw [callers, safe.unwaited rejecting]
    rfl
  · intro further last on
    exact on.stays safe

/-- A caller waits while both permits are out, is woken when one comes back, and finds that another
caller was faster. -/
theorem lends_below_limit_late :
    ∃ d, Run (opened "orders" { initialLimit := 2 } ⟨0, 0⟩)
        [.ask 0, .ask 1, .ask 2, .advance (.ofMillis 3), .release (.success (.ofMillis 3)), .ask 3,
          .askAgain 2] d ∧
      d.limiter.inFlight = 2 ∧ d.limiter.limit = 2 ∧ d.callers = [2] ∧
      d.limiter.acquire.1 = .waiting d.limiter.signals := by
  have run : Run (opened "orders" { initialLimit := 2 } ⟨0, 0⟩)
      [.ask 0, .ask 1, .ask 2, .advance (.ofMillis 3), .release (.success (.ofMillis 3)), .ask 3,
        .askAgain 2] _ :=
    .goes trivial (.ask (by decide)) (.goes trivial (.ask (by decide +kernel))
      (.goes trivial (.ask (by decide +kernel)) (.goes trivial .advance
        (.goes trivial (.release (by decide +kernel)) (.goes trivial (.ask (by decide +kernel))
          (.goes trivial (@Step.askAgain _ 2 0 (by decide +kernel) (by decide +kernel)) .done))))))
  obtain ⟨_, _, waits, _⟩ := lends_below_limit run
  exact ⟨_, run, by decide +kernel, by decide +kernel, by decide +kernel,
    waits rfl (by decide +kernel)⟩

end Desk
end Failover
