import Failover.Proofs.Journal.Metrics
import Failover.Proofs.Limiter.Lending

/-!
# Gauges that do not go stale

A limiter records its limit only when it changes, and the permits in use whenever one is lent or
comes back. What was recorded last is nevertheless always what holds: each operation writes just
those events after which the gauges show what the limiter has come to.
-/

namespace Failover

/-! ## What one operation writes -/

namespace Controller

/-- Events that bring the gauges of a limiter from one state to another, with so many refusals among
them. One that does not learn writes to no gauge. -/
structure Shown (c : Controller) (events : List Event) (d : Controller) (refused : Nat) : Prop where
  name : d.name = c.name
  learns : d.learning.isSome = c.learning.isSome
  limit : (recorded? (Event.limitOf? c.name) events).getD c.limit = d.limit
  inFlight : c.learning.isSome = true →
    (recorded? (Event.inFlightOf? c.name) events).getD c.inFlight = d.inFlight
  silent : c.learning.isSome = false → recorded? (Event.limitOf? c.name) events = none ∧
    recorded? (Event.inFlightOf? c.name) events = none
  refused : events.countP (Event.refuses c.name) = refused

variable {c d e : Controller} {events more : List Event} {m n : Nat}

/-- Nothing is written where nothing changes. -/
theorem Shown.refl (c : Controller) : Shown c [] c 0 where
  name := rfl
  learns := rfl
  limit := rfl
  inFlight _ := rfl
  silent _ := ⟨rfl, rfl⟩
  refused := rfl

theorem Shown.trans (first : Shown c events d m) (second : Shown d more e n) :
    Shown c (events ++ more) e (m + n) where
  name := second.name.trans first.name
  learns := second.learns.trans first.learns
  limit := by
    rw [getD_recorded?_append, first.limit, ← first.name, second.limit]
  inFlight learns := by
    rw [getD_recorded?_append, first.inFlight learns, ← first.name,
      second.inFlight (first.learns.trans learns)]
  silent unlearned := by
    obtain ⟨limit, inFlight⟩ := first.silent unlearned
    obtain ⟨limit', inFlight'⟩ := second.silent (first.learns.trans unlearned)
    rw [first.name] at limit' inFlight'
    rw [recorded?_append, recorded?_append, limit, limit', inFlight, inFlight']
    exact ⟨rfl, rfl⟩
  refused := by
    rw [List.countP_append, first.refused, ← first.name, second.refused]

/-- The gauge of the permits in use, written after they have changed. -/
theorem shown_inFlightGauge (same : d.name = c.name) (learning : d.learning = c.learning)
    (limit : d.limit = c.limit) : Shown c d.inFlightGauge d 0 := by
  rw [inFlightGauge, learning, same]
  cases learns : c.learning.isSome with
  | false =>
    refine ⟨same, by rw [learning], limit.symm, fun h => ?_, fun _ => ⟨rfl, rfl⟩, rfl⟩
    rw [learns] at h
    cases h
  | true =>
    refine ⟨same, by rw [learning], limit.symm, fun _ => ?_, fun h => ?_, rfl⟩
    · simp [recorded?, Event.inFlightOf?]
    · rw [learns] at h
      cases h

theorem shown_tryAcquire (h : c.tryAcquire = some (d, events)) : Shown c events d 0 := by
  rw [tryAcquire] at h
  split at h
  · cases h
    exact shown_inFlightGauge rfl rfl rfl
  · cases h

/-- Whether the answer is a refusal. -/
def Admission.isRefusal : Admission → Bool
  | .refused _ => true
  | _ => false

/-- Every refusal is counted, and nothing else is. -/
theorem shown_acquire (c : Controller) :
    Shown c c.acquire.2.2 c.acquire.2.1 (if c.acquire.1.isRefusal then 1 else 0) := by
  rw [acquire]
  split
  · rename_i lent
    exact shown_tryAcquire lent
  · split
    · refine ⟨rfl, rfl, rfl, fun _ => rfl, fun _ => ⟨rfl, rfl⟩, ?_⟩
      simp [Event.refuses, Admission.isRefusal]
    · exact ⟨rfl, rfl, rfl, fun _ => rfl, fun _ => ⟨rfl, rfl⟩, rfl⟩

/-- A new limit is recorded, and one that stays is what was recorded before. -/
theorem shown_roll {l : Learning} (learns : c.learning = some l) (now : Nat) :
    Shown c (c.roll l now).2 (c.roll l now).1 0 := by
  have unlearned : ¬c.learning.isSome = false := by simp [learns]
  rw [roll]
  by_cases same : l.rule.update c.limit c.window = c.limit
  · rw [if_pos same]
    exact ⟨rfl, rfl, same.symm, fun _ => rfl, fun h => absurd h unlearned, rfl⟩
  · rw [if_neg same]
    refine ⟨rfl, rfl, ?_, fun _ => rfl, fun h => absurd h unlearned, rfl⟩
    simp [recorded?, Event.limitOf?]

theorem shown_observe (c : Controller) (clock : Clock) (see : Window → Window) :
    Shown c (c.observe clock see).2 (c.observe clock see).1 0 := by
  rw [observe.eq_def]
  split
  · exact .refl c
  · rename_i l learns
    dsimp only
    have seen : Shown c [] { c with window := see c.window } 0 := { Shown.refl c with }
    split
    · exact seen.trans (shown_roll (c := { c with window := see c.window }) learns _)
    · exact seen

theorem shown_learn (c : Controller) (clock : Clock) (completion : Completion) :
    Shown c (c.learn clock completion).2 (c.learn clock completion).1 0 := by
  cases completion with
  | success rtt => exact shown_observe c clock _
  | dropped => exact shown_observe c clock _
  | ignored => exact .refl c

/-- A permit that comes back leaves both gauges right, whatever the limiter learns from it. -/
theorem shown_release (c : Controller) (clock : Clock) (completion : Completion) :
    Shown c (c.release clock completion).2 (c.release clock completion).1 0 := by
  have begins : Shown c [.permitReleased c.name completion] c 0 :=
    ⟨rfl, rfl, rfl, fun _ => rfl, fun _ => ⟨rfl, rfl⟩, rfl⟩
  have learned := shown_learn c clock completion
  have free : Shown (c.learn clock completion).1 (c.learn clock completion).1.giveBack.2
      (c.learn clock completion).1.giveBack.1 0 := shown_inFlightGauge rfl rfl rfl
  exact begins.trans (learned.trans free)

end Controller

/-! ## One operation after another -/

/-- Whether an event measures nothing under the label of a limiter. -/
def Event.IsApart (name : String) (e : Event) : Prop :=
  ∀ x ∈ e.measurements, x.metric.labels ≠ [("limiter", name)]

instance (name : String) (e : Event) : Decidable (e.IsApart name) :=
  inferInstanceAs (Decidable (∀ x ∈ e.measurements, x.metric.labels ≠ [("limiter", name)]))

/-- A limiter with its clock, everything that was written so far, and the answers to those who asked
for permits. -/
structure Watched where
  limiter : Controller
  clock : Clock
  journal : List Event
  answers : List Controller.Admission

namespace Watched

/-- What can happen to a limiter that is watched: a permit is taken if there is one, asked for, or
given back; time passes; something is written that is not about this limiter. -/
inductive Use where
  | tryAcquire
  | acquire
  | release (completion : Completion)
  | advance (span : Span)
  | others (events : List Event)

/-- A limiter made with settings, where something was written before. -/
def opened (s : LimiterSettings) (name : String) (clock : Clock) (before : List Event) : Watched :=
  let (limiter, events) := Limiters.create s name clock
  ⟨limiter, clock, before ++ events, []⟩

/-- After an operation that left the limiter like this and wrote these events. -/
def writes (w : Watched) (limiter : Controller) (events : List Event) : Watched :=
  { w with limiter, journal := w.journal ++ events }

/-- After a caller has asked for a permit and got an answer. -/
def answered (w : Watched) : Watched :=
  let (answer, limiter, events) := w.limiter.acquire
  { w.writes limiter events with answers := w.answers ++ [answer] }

/-- After a permit has come back. -/
def released (w : Watched) (completion : Completion) : Watched :=
  let (limiter, events) := w.limiter.release w.clock completion
  w.writes limiter events

/-- One use after another. Only a permit that is out comes back. -/
inductive Step (w : Watched) : Use → Watched → Prop
  | lends {limiter : Controller} {events : List Event}
      (lent : w.limiter.tryAcquire = some (limiter, events)) :
      Step w .tryAcquire (w.writes limiter events)
  | misses (full : w.limiter.tryAcquire = none) : Step w .tryAcquire w
  | acquire : Step w .acquire w.answered
  | release {completion : Completion} (out : 0 < w.limiter.inFlight) :
      Step w (.release completion) (w.released completion)
  | advance {span : Span} : Step w (.advance span) { w with clock := w.clock.advance span }
  | others {events : List Event} (apart : ∀ e ∈ events, e.IsApart w.limiter.name) :
      Step w (.others events) (w.writes w.limiter events)

inductive Run : Watched → List Use → Watched → Prop
  | done {w : Watched} : Run w [] w
  | goes {w next last : Watched} {use : Use} {uses : List Use} (step : Step w use next)
      (rest : Run next uses last) : Run w (use :: uses) last

/-- What was recorded last is what holds, and all refusals are counted. A limiter that does not
learn has recorded nothing. -/
structure IsCurrent (s : LimiterSettings) (name : String) (w : Watched) : Prop where
  name_eq : w.limiter.name = name
  learns : w.limiter.learning.isSome = s.enabled
  limit : s.enabled = true →
    recorded? (Event.limitOf? name) w.journal = some w.limiter.limit
  inFlight : s.enabled = true →
    (recorded? (Event.inFlightOf? name) w.journal).getD 0 = w.limiter.inFlight
  silent : s.enabled = false → recorded? (Event.limitOf? name) w.journal = none ∧
    recorded? (Event.inFlightOf? name) w.journal = none
  refused : w.journal.countP (Event.refuses name) =
    w.answers.countP Controller.Admission.isRefusal

variable {s : LimiterSettings} {name : String} {w next last : Watched}

/-- Nothing about a limiter can be read off an event that is apart from it. -/
theorem unread_of_apart {e : Event} (apart : e.IsApart name) :
    e.limitOf? name = none ∧ e.inFlightOf? name = none ∧ e.refuses name = false := by
  have other : ∀ x ∈ e.measurements, x.metric.labels ≠ [("limiter", name)] := apart
  cases e with
  | limitSet limiter limit =>
    have apart : limiter ≠ name := by
      rintro rfl
      exact other _ List.mem_cons_self rfl
    exact ⟨if_neg apart, rfl, rfl⟩
  | inFlightSet limiter count =>
    have apart : limiter ≠ name := by
      rintro rfl
      exact other _ List.mem_cons_self rfl
    exact ⟨rfl, if_neg apart, rfl⟩
  | permitRefused limiter =>
    have apart : limiter ≠ name := by
      rintro rfl
      exact other _ List.mem_cons_self rfl
    exact ⟨rfl, rfl, decide_eq_false apart⟩
  | _ => exact ⟨rfl, rfl, rfl⟩

theorem unread_of_forall_apart {events : List Event} (apart : ∀ e ∈ events, e.IsApart name) :
    recorded? (Event.limitOf? name) events = none ∧
    recorded? (Event.inFlightOf? name) events = none ∧
    events.countP (Event.refuses name) = 0 := by
  refine ⟨?_, ?_, ?_⟩
  · rw [recorded?, List.filterMap_eq_nil_iff.mpr fun e he => (unread_of_apart (apart e he)).1]
    rfl
  · rw [recorded?, List.filterMap_eq_nil_iff.mpr fun e he => (unread_of_apart (apart e he)).2.1]
    rfl
  · rw [List.countP_eq_zero]
    intro e he
    simp [(unread_of_apart (apart e he)).2.2]

/-- Events that are apart from a limiter leave its gauges as they are. -/
theorem shown_of_apart {c : Controller} {events : List Event}
    (apart : ∀ e ∈ events, e.IsApart c.name) : c.Shown events c 0 := by
  obtain ⟨limit, inFlight, refused⟩ := unread_of_forall_apart apart
  exact ⟨rfl, rfl, by rw [limit]; rfl, fun _ => by rw [inFlight]; rfl,
    fun _ => ⟨limit, inFlight⟩, refused⟩

/-- Events that show what a limiter has come to are added, with an answer if there was one. -/
theorem IsCurrent.append (h : w.IsCurrent s name) {limiter : Controller} {events : List Event}
    {more : List Controller.Admission} {n : Nat} (shown : w.limiter.Shown events limiter n)
    (counted : more.countP Controller.Admission.isRefusal = n) :
    IsCurrent s name { w.writes limiter events with answers := w.answers ++ more } := by
  obtain ⟨sameName, learns, limit, inFlight, silent, refused⟩ := shown
  rw [h.name_eq] at sameName limit inFlight silent refused
  refine ⟨sameName, learns.trans h.learns, fun enabled => ?_, fun enabled => ?_, fun disabled => ?_,
    ?_⟩
  · show recorded? _ (w.journal ++ events) = some limiter.limit
    rw [recorded?_append, h.limit enabled, ← limit]
    cases recorded? (Event.limitOf? name) events <;> rfl
  · show (recorded? _ (w.journal ++ events)).getD 0 = limiter.inFlight
    rw [getD_recorded?_append, h.inFlight enabled]
    exact inFlight (h.learns.trans enabled)
  · obtain ⟨limit, inFlight⟩ := silent (h.learns.trans disabled)
    obtain ⟨limit', inFlight'⟩ := h.silent disabled
    show recorded? _ (w.journal ++ events) = none ∧ recorded? _ (w.journal ++ events) = none
    rw [recorded?_append, recorded?_append, limit, limit', inFlight, inFlight']
    exact ⟨rfl, rfl⟩
  · show (w.journal ++ events).countP _ = (w.answers ++ more).countP _
    rw [List.countP_append, List.countP_append, h.refused, refused, counted]

theorem IsCurrent.writes (h : w.IsCurrent s name) {limiter : Controller} {events : List Event}
    (shown : w.limiter.Shown events limiter 0) : (w.writes limiter events).IsCurrent s name := by
  have written : IsCurrent s name { w.writes limiter events with answers := w.answers ++ [] } :=
    h.append shown rfl
  rwa [List.append_nil] at written

theorem Step.isCurrent {use : Use} (step : Step w use next) (h : w.IsCurrent s name) :
    next.IsCurrent s name := by
  cases step with
  | lends lent => exact h.writes (Controller.shown_tryAcquire lent)
  | misses full => exact h
  | acquire => exact h.append w.limiter.shown_acquire List.countP_singleton
  | release out => exact h.writes (w.limiter.shown_release w.clock _)
  | advance => exact { h with }
  | others apart => exact h.writes (shown_of_apart apart)

theorem Run.isCurrent {uses : List Use} (run : Run w uses last) (h : w.IsCurrent s name) :
    last.IsCurrent s name := by
  induction run with
  | done => exact h
  | goes step _ ih => exact ih (step.isCurrent h)

/-- A limiter that learns records its first limit when it is made, and one that does not records
nothing. -/
theorem opened_isCurrent (s : LimiterSettings) (name : String) (clock : Clock)
    {before : List Event} (own : ∀ e ∈ before, e.IsApart name) :
    (opened s name clock before).IsCurrent s name := by
  obtain ⟨limit, inFlight, refused⟩ := unread_of_forall_apart own
  have limits : ∀ events, recorded? (Event.limitOf? name) (before ++ events) =
      recorded? (Event.limitOf? name) events := by
    intro events
    rw [recorded?_append, limit, Option.or_none]
  have counts : ∀ events, recorded? (Event.inFlightOf? name) (before ++ events) =
      recorded? (Event.inFlightOf? name) events := by
    intro events
    rw [recorded?_append, inFlight, Option.or_none]
  have refusals : ∀ events, (before ++ events).countP (Event.refuses name) =
      events.countP (Event.refuses name) := by
    intro events
    rw [List.countP_append, refused, Nat.zero_add]
  rw [opened, Limiters.create]
  by_cases enabled : s.enabled = true
  · rw [if_pos enabled]
    refine ⟨rfl, enabled.symm, fun _ => ?_, fun _ => ?_, fun disabled => ?_, refusals _⟩
    · rw [limits]
      simp [Controller.adaptive, recorded?, Event.limitOf?]
    · rw [counts]
      rfl
    · rw [enabled] at disabled
      cases disabled
  · rw [if_neg enabled]
    refine ⟨rfl, (Bool.eq_false_iff.mpr enabled).symm, fun h => absurd h enabled,
      fun h => absurd h enabled, fun _ => ⟨?_, ?_⟩, refusals _⟩
    · rw [limits]
      rfl
    · rw [counts]
      rfl

/-! ## The main result -/

/-- After every operation the gauges of a limiter that learns show its limit and the permits in use,
as they were recorded last and as the table of metrics has them, and the counter shows how many
callers were refused. A limiter that does not learn has neither gauge. -/
theorem gauges_current {clock : Clock} {before : List Event} {uses : List Use}
    (own : ∀ e ∈ before, e.IsApart name) (run : Run (opened s name clock before) uses w) :
    let table := MetricTable.ofEvents w.journal
    (s.enabled = true →
      recorded? (Event.limitOf? name) w.journal = some w.limiter.limit ∧
      table.get? (.ofLimiter "resilient_call_concurrency_limit" name) =
        some (.last (Word64.toFloat w.limiter.limit)) ∧
      (recorded? (Event.inFlightOf? name) w.journal).getD 0 = w.limiter.inFlight ∧
      (table.get? (.ofLimiter "resilient_call_in_flight" name)).getD (.last 0.0) =
        .last (Word64.toFloat w.limiter.inFlight)) ∧
    (table.get? (.ofLimiter "resilient_call_admission_rejected_total" name)).getD (.total 0) =
      .total (w.answers.countP Controller.Admission.isRefusal) ∧
    (s.enabled = false →
      table.get? (.ofLimiter "resilient_call_concurrency_limit" name) = none ∧
      table.get? (.ofLimiter "resilient_call_in_flight" name) = none) := by
  have current := run.isCurrent (opened_isCurrent s name clock own)
  simp only [MetricTable.get?_limit, MetricTable.get?_inFlight, MetricTable.get?_refused]
  refine ⟨fun enabled => ?_, by rw [current.refused], fun disabled => ?_⟩
  · have inFlight := current.inFlight enabled
    refine ⟨current.limit enabled, by rw [current.limit enabled]; rfl, inFlight, ?_⟩
    rw [← inFlight]
    cases recorded? (Event.inFlightOf? name) w.journal <;> rfl
  · obtain ⟨limit, inFlight⟩ := current.silent disabled
    rw [limit, inFlight]
    exact ⟨rfl, rfl⟩

/-- Cut from two, a limit that may fall to one is one. -/
theorem update_two_of_drop {r : LimitRule} {w : Window} (dropped : w.didDrop = true)
    (least : r.minLimit = 1) (ordered : 1 ≤ r.maxLimit) : r.update 2 w = 1 := by
  have below : r.cut 2 ≤ 1 := Nat.le_of_lt_succ (LimitRule.cut_lt (by decide))
  rw [LimitRule.update, LimitRule.wanted, if_pos dropped, LimitRule.clamp, least]
  split
  · rfl
  · split <;> omega

/-- A limiter of two permits, after three callers have asked for one. -/
def crowded : Watched :=
  (opened { initialLimit := 2, mode := .rejecting } "orders" ⟨0, 0⟩ []).answered.answered.answered

theorem limit_crowded_release : (crowded.limiter.release crowded.clock .dropped).1.limit = 1 := by
  have learns : crowded.limiter.learning =
      some (.ofSettings { initialLimit := 2, mode := .rejecting }) := rfl
  have two : crowded.limiter.limit = 2 := by decide +kernel
  rcases Controller.release_dropped learns crowded.clock with ⟨set, _⟩ | ⟨sampled, _⟩
  · rw [set, two]
    exact update_two_of_drop (by decide +kernel) rfl (by decide +kernel)
  · exact absurd (by decide +kernel) sampled

/-- A drop cuts the limit to one while a permit is still out, after a third caller was refused. In
between the limit of another limiter is recorded. -/
theorem gauges_current_drop :
    ∃ w, Run (opened { initialLimit := 2, mode := .rejecting } "orders" ⟨0, 0⟩ [])
        [.acquire, .acquire, .acquire, .others [.limitSet "parts" 7], .release .dropped] w ∧
      let table := MetricTable.ofEvents w.journal
      table.get? (.ofLimiter "resilient_call_concurrency_limit" "orders") =
        some (.last (Word64.toFloat 1)) ∧
      (table.get? (.ofLimiter "resilient_call_in_flight" "orders")).getD (.last 0.0) =
        .last (Word64.toFloat 1) ∧
      (table.get? (.ofLimiter "resilient_call_admission_rejected_total" "orders")).getD (.total 0) =
        .total 1 := by
  have run : Run (opened { initialLimit := 2, mode := .rejecting } "orders" ⟨0, 0⟩ [])
      [.acquire, .acquire, .acquire, .others [.limitSet "parts" 7], .release .dropped]
      ((crowded.writes crowded.limiter [.limitSet "parts" 7]).released .dropped) :=
    .goes .acquire (.goes .acquire (.goes .acquire (.goes (.others (by decide +kernel))
      (.goes (.release (by decide +kernel)) .done))))
  obtain ⟨shown, refused, _⟩ := gauges_current (List.forall_mem_nil _) run
  obtain ⟨_, limit, _, inFlight⟩ := shown rfl
  refine ⟨_, run, limit.trans ?_, inFlight.trans ?_, refused.trans ?_⟩
  · exact congrArg (some ∘ MetricValue.last ∘ Word64.toFloat) limit_crowded_release
  · exact congrArg (MetricValue.last ∘ Word64.toFloat) (by decide +kernel)
  · exact congrArg MetricValue.total (by decide +kernel)

end Watched
end Failover
