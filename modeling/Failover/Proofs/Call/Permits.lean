import Failover.Proofs.Call.Step
import Failover.Proofs.Limiter.Frame

/-!
# Permits of the calls of an engine

Many calls share the limiters of their engine, take their steps in any order and may be cancelled
anywhere, while others than calls borrow permits too. A limiter has lent as many permits as there
are calls under its key in an exchange and permits held by others: each step moves both counts
alike.
-/

namespace Failover

/-! ## One call -/

/-- Whether a call at this point is in an exchange. -/
def Point.isExchanging : Point → Bool
  | .exchanging _ _ _ => true
  | _ => false

/-- The permits of a key that a call at a point holds: one while it is in an exchange. -/
def Call.holds (c : Call) (p : Point) (key : String) : Nat :=
  if p.isExchanging ∧ key = c.key then 1 else 0

theorem Call.holds_eq_zero {c : Call} {p : Point} (h : p.isExchanging = false) (key : String) :
    c.holds p key = 0 := by
  simp [holds, h]

theorem Call.holds_exchanging {c : Call} {p : Point} (h : p.isExchanging = true) (key : String) :
    c.holds p key = if key = c.key then 1 else 0 := by
  simp [holds, h]

namespace Session

variable {e : Engine} {clock : Clock} {s t a : Session e.endpoints}

/-- A call keeps its key from `s` to `t`, and a limiter has lent more or fewer permits by as many
as the call has taken or given back. -/
structure Conserves (s t : Session e.endpoints) : Prop where
  key : t.call.key = s.call.key
  lent : ∀ key, t.shared.limiters.inFlight key + s.call.holds s.point key =
    s.shared.limiters.inFlight key + t.call.holds t.point key

/-- A step outside of exchanges that leaves the limiters alone. -/
theorem Conserves.of_limiters_eq (key : t.call.key = s.call.key)
    (same : t.shared.limiters = s.shared.limiters) (hs : s.point.isExchanging = false)
    (ht : t.point.isExchanging = false) : Conserves s t where
  key := key
  lent k := by rw [same, Call.holds_eq_zero hs, Call.holds_eq_zero ht]

/-- What follows an attempt touches no limiter, and is no exchange. -/
theorem follow_frame (drawn : Nat) (s : Session e.endpoints) (outcome : Outcome) :
    (follow e drawn s outcome).1.shared.limiters = s.shared.limiters ∧
    (follow e drawn s outcome).1.call.key = s.call.key ∧
    (follow e drawn s outcome).1.point.isExchanging = false := by
  have key := congrArg (·.key) (follow_call_frame (e := e) drawn s outcome)
  cases outcome <;> exact ⟨rfl, key, rfl⟩

/-- The end of an attempt gives its permit back, whatever the outcome. -/
theorem settle_gives_back {drawn started : Nat} {url : Url}
    {result : Except TransportError Response} {events : List Event}
    (settled : settle e clock drawn s url started result = (t, events)) :
    t.call.key = s.call.key ∧ t.point.isExchanging = false ∧
    ∀ key, t.shared.limiters.inFlight key =
      s.shared.limiters.inFlight key - if key = s.call.key then 1 else 0 := by
  obtain ⟨x, _, rfl, _⟩ := settle_follow settled
  obtain ⟨limiters, key, still⟩ := follow_frame (e := e) drawn (s.told x) x.outcome
  refine ⟨key, still, fun k => ?_⟩
  rw [limiters]
  exact Limiters.inFlight_release s.shared.limiters x.ended s.call.key x.completion k

/-- A session that asks for a permit stands where it shares the same, holding none. -/
theorem Asks.frame {url : Url} {front : List Event} (asks : Asks s a url front) :
    a.shared = s.shared ∧ a.call.key = s.call.key ∧ s.point.isExchanging = false := by
  cases asks with
  | anew stands read =>
    rw [stands]
    exact ⟨rfl, rfl, rfl⟩
  | again stands =>
    rw [stands]
    exact ⟨rfl, rfl, rfl⟩

/-- An answer that a call gets changes what is lent by the permit that it is granted, if any. -/
theorem Asks.lends {url : Url} {front events : List Event} {answer : Controller.Admission}
    {c : Controller} (asks : Asks s a url front)
    (answered : (a.limiter clock).acquire = (answer, c, events)) (key : String) :
    (a.withLimiter c).shared.limiters.inFlight key =
      s.shared.limiters.inFlight key +
        if answer = .granted ∧ key = a.call.key then 1 else 0 := by
  rw [← asks.frame.1]
  exact Limiters.inFlight_acquire answered key

/-- Every step conserves permits, if the permit that the call holds is among those lent. -/
theorem Transition.conserves {events : List Event} (row : Transition e clock s t events)
    (covered : ∀ key, s.call.holds s.point key ≤ s.shared.limiters.inFlight key) :
    Conserves s t := by
  cases row with
  | begins stands => exact .of_limiters_eq rfl rfl (by rw [stands]; rfl) rfl
  | unreadable stands bad => exact .of_limiters_eq rfl rfl (by rw [stands]; rfl) rfl
  | waits asks answer =>
    obtain ⟨_, key, still⟩ := asks.frame
    refine ⟨key, fun k => ?_⟩
    have lent := asks.lends answer k
    rw [Call.holds_eq_zero still, Call.holds_eq_zero rfl]
    simpa using lent
  | @refused a url front _ _ c error drawn call phase asks answer retried =>
    obtain ⟨_, key, still⟩ := asks.frame
    have kept : call.key = a.call.key := congrArg (·.key) (Call.eq_of_retry retried)
    refine ⟨kept.trans key, fun k => ?_⟩
    have lent := asks.lends answer k
    rw [Call.holds_eq_zero still, Call.holds_eq_zero rfl]
    show (a.withLimiter c).shared.limiters.inFlight k + 0 = _
    simpa using lent
  | @sends a url front _ c request asks answer built =>
    obtain ⟨_, key, still⟩ := asks.frame
    refine ⟨key, fun k => ?_⟩
    -- the one permit more that is lent is the one that the call holds from now on
    have lent := asks.lends answer k
    rw [Call.holds_eq_zero still]
    show _ = _ + a.call.holds _ k
    rw [Call.holds_exchanging rfl]
    simpa using lent
  | @unsendable a _ url front _ _ c error drawn asks answer bad settled =>
    obtain ⟨_, key, still⟩ := asks.frame
    obtain ⟨kept, ended, back⟩ := settle_gives_back settled
    refine ⟨kept.trans key, fun k => ?_⟩
    -- the permit is lent and given back within the one step
    have lent := asks.lends answer k
    have own : (a.withLimiter c).call.key = a.call.key := rfl
    rw [Call.holds_eq_zero still, Call.holds_eq_zero ended, back, lent, own]
    simp
  | hears stands settled =>
    obtain ⟨kept, ended, back⟩ := settle_gives_back settled
    have exchanging : s.point.isExchanging = true := by rw [stands]; rfl
    refine ⟨kept, fun k => ?_⟩
    -- the count would stop at zero if the permit that is given back were not among those lent
    have lent := covered k
    rw [Call.holds_exchanging exchanging] at lent ⊢
    rw [Call.holds_eq_zero ended, back]
    omega
  | relocates stands moved => exact .of_limiters_eq rfl rfl (by rw [stands]; rfl) rfl
  | stranded stands stuck => exact .of_limiters_eq rfl rfl (by rw [stands]; rfl) rfl
  | backsOff stands => exact .of_limiters_eq rfl rfl (by rw [stands]; rfl) rfl
  | resumes stands due => exact .of_limiters_eq rfl rfl (by rw [stands]; rfl) rfl
  | succeeds stands => exact .of_limiters_eq rfl rfl (by rw [stands]; rfl) rfl
  | fails stands => exact .of_limiters_eq rfl rfl (by rw [stands]; rfl) rfl

/-- A call begins without a permit, and its limiter has lent what it had lent before. -/
theorem start_lends_nothing (e : Engine) (clock : Clock) (shared : Shared e.endpoints)
    (o : CallOptions) (key : String) :
    (start e clock shared o).1.shared.limiters.inFlight key = shared.limiters.inFlight key :=
  Limiters.inFlight_put_obtain shared.limiters clock (o.key.getD e.service) key

/-- A call that is dropped gives back the permit that it holds. -/
theorem cancel_gives_back (clock : Clock) (s : Session e.endpoints)
    (covered : ∀ key, s.call.holds s.point key ≤ s.shared.limiters.inFlight key) (key : String) :
    (cancel e clock s).1.limiters.inFlight key + s.call.holds s.point key =
      s.shared.limiters.inFlight key := by
  cases hp : s.point with
  | exchanging url started request =>
    have lent := covered key
    rw [hp, Call.holds_exchanging rfl] at lent
    have back := Limiters.inFlight_release s.shared.limiters clock s.call.key .ignored key
    simp only [cancel, hp]
    rw [Call.holds_exchanging rfl]
    change (s.shared.limiters.put s.call.key _).inFlight key = _ at back
    show (s.shared.limiters.put s.call.key _).inFlight key + _ = _
    rw [limiter, back]
    omega
  | entering phase => simp only [cancel, hp]; rfl
  | waiting url signals => simp only [cancel, hp]; rfl
  | pausing moment => simp only [cancel, hp]; rfl
  | finished result => simp only [cancel, hp]; rfl

/-- A call that is dropped teaches no limiter anything. -/
theorem learned?_cancel (clock : Clock) (s : Session e.endpoints)
    (covered : ∀ key, s.call.holds s.point key ≤ s.shared.limiters.inFlight key) (key : String) :
    (cancel e clock s).1.limiters.learned? key = s.shared.limiters.learned? key := by
  cases hp : s.point with
  | exchanging url started request =>
    have lent := covered s.call.key
    rw [hp, Call.holds_exchanging rfl, if_pos rfl] at lent
    -- a limiter that has lent a permit was made before, so that looking it up makes none
    have made := Limiters.obtain_of_pos clock lent
    simp only [cancel, hp]
    show (s.shared.limiters.put s.call.key _).learned? key = _
    by_cases h : key = s.call.key
    · rw [h, Limiters.learned?, Limiters.find?_put_self, Limiters.learned?, made]
      rfl
    · rw [Limiters.learned?, Limiters.find?_put_of_ne _ h]
      rfl
  | entering phase => simp only [cancel, hp]
  | waiting url signals => simp only [cancel, hp]
  | pausing moment => simp only [cancel, hp]
  | finished result => simp only [cancel, hp]

end Session

/-! ## Many calls -/

/-- Calls of one engine with what they share, and the key of every permit that is held by others. -/
structure Crowd (e : Engine) where
  shared : Shared e.endpoints
  calls : List (Call × Point)
  held : List String

namespace Crowd

variable {e : Engine}

/-- Nothing has happened yet on the engine, but that one endpoint is preferred. -/
def fresh (preferred : Preferred e.endpoints) : Crowd e :=
  ⟨⟨preferred, .ofSettings e.limiter⟩, [], []⟩

/-- One of the calls among what all of them share. -/
def session (g : Crowd e) (c : Call × Point) : Session e.endpoints := ⟨g.shared, c.1, c.2⟩

/-- The crowd after the limiter of a key was looked up, and is left in this state. -/
def withLimiter (g : Crowd e) (key : String) (c : Controller) : Crowd e :=
  { g with shared := { g.shared with limiters := g.shared.limiters.put key c } }

/-- What can happen next: a call begins, takes a step, or is dropped where it stands; somebody else
looks up a limiter, asks it for a permit, or gives one back. Each of these has its own moment. -/
inductive Step : Crowd e → Crowd e → Prop
  | begins {g : Crowd e} {s : Session e.endpoints} {events : List Event} (clock : Clock)
      (o : CallOptions) (started : Session.start e clock g.shared o = (s, events)) :
      Step g { g with shared := s.shared, calls := (s.call, s.point) :: g.calls }
  | moves {g : Crowd e} {clock : Clock} {before after : List (Call × Point)} {c : Call × Point}
      {s : Session e.endpoints} {events : List Event} (among : g.calls = before ++ c :: after)
      (step : Session.Step e clock (g.session c) s events) :
      Step g { g with shared := s.shared, calls := before ++ (s.call, s.point) :: after }
  | cancels {g : Crowd e} {before after : List (Call × Point)} {c : Call × Point} (clock : Clock)
      (among : g.calls = before ++ c :: after) :
      Step g { g with
        shared := (Session.cancel e clock (g.session c)).1, calls := before ++ after }
  | looksUp {g : Crowd e} (clock : Clock) (key : String) :
      Step g (g.withLimiter key (g.shared.limiters.obtain clock key).1)
  | borrows {g : Crowd e} {answer : Controller.Admission} {c : Controller} {events : List Event}
      (clock : Clock) (key : String)
      (answered : (g.shared.limiters.obtain clock key).1.acquire = (answer, c, events)) :
      Step g { g.withLimiter key c with
        held := if answer = .granted then key :: g.held else g.held }
  | returns {g : Crowd e} (clock : Clock) (key : String) (completion : Completion)
      (holds : key ∈ g.held) :
      Step g { g.withLimiter key
          ((g.shared.limiters.obtain clock key).1.release clock completion).1 with
        held := g.held.erase key }

/-- What a crowd can come to. -/
def Reaches : Crowd e → Crowd e → Prop := Relation.ReflTransGen Step

/-- The calls under a key that are in an exchange. -/
def exchanging (g : Crowd e) (key : String) : Nat :=
  g.calls.countP fun c => c.2.isExchanging ∧ key = c.1.key

/-- No permit is lost or lent twice. -/
def Balanced (g : Crowd e) : Prop :=
  ∀ key, g.shared.limiters.inFlight key = g.exchanging key + g.held.count key

variable {g h : Crowd e}

/-- A call counts among others by the permit that it holds. -/
theorem exchanging_eq {before after : List (Call × Point)} {c : Call × Point}
    (among : g.calls = before ++ c :: after) (key : String) :
    g.exchanging key = (before ++ after).countP (fun c => c.2.isExchanging ∧ key = c.1.key) +
      c.1.holds c.2 key := by
  rw [exchanging, among, List.countP_append, List.countP_append, List.countP_cons, Call.holds]
  simp only [decide_eq_true_eq]
  omega

/-- In a balanced crowd the permit of a call is among those that its limiter has lent. -/
theorem Balanced.covers (balanced : g.Balanced) {c : Call × Point} (among : c ∈ g.calls)
    (key : String) : c.1.holds c.2 key ≤ g.shared.limiters.inFlight key := by
  obtain ⟨before, after, split⟩ := List.append_of_mem among
  rw [balanced key, exchanging_eq split key]
  omega

/-- Every step keeps the balance. -/
theorem Step.balanced (step : Step g h) (balanced : g.Balanced) : h.Balanced := by
  intro key
  have before := balanced key
  cases step with
  | @begins s _ clock o started =>
    have lent : s.shared.limiters.inFlight key = g.shared.limiters.inFlight key := by
      rw [← congrArg (·.1.shared.limiters.inFlight key) started]
      exact Session.start_lends_nothing e clock g.shared o key
    have still : s.point.isExchanging = false := by
      rw [← congrArg (·.1.point.isExchanging) started]
      rfl
    show s.shared.limiters.inFlight key = exchanging ⟨_, _ :: _, _⟩ key + _
    rw [exchanging_eq (show _ = [] ++ _ :: _ from rfl) key, Call.holds_eq_zero still, lent]
    exact before
  | @moves clock front after c s _ among step =>
    have mem : c ∈ g.calls := by rw [among]; simp
    -- the other calls hold what they held before, so that the one that moves decides
    have conserves := step.transition.conserves (balanced.covers mem)
    have lent := conserves.lent key
    rw [exchanging_eq among key] at before
    show s.shared.limiters.inFlight key = exchanging ⟨_, front ++ _ :: after, _⟩ key + _
    rw [exchanging_eq rfl key]
    show _ = _ + s.call.holds s.point key + g.held.count key
    simp only [session] at lent
    omega
  | @cancels front after c clock among =>
    have mem : c ∈ g.calls := by rw [among]; simp
    have back := Session.cancel_gives_back clock (g.session c) (balanced.covers mem) key
    rw [exchanging_eq among key] at before
    simp only [session] at back
    show (Session.cancel e clock (g.session c)).1.limiters.inFlight key =
      (front ++ after).countP _ + g.held.count key
    simp only [session]
    omega
  | looksUp clock other =>
    show (g.shared.limiters.put _ _).inFlight key = _
    rw [Limiters.inFlight_put_obtain]
    exact before
  | @borrows answer c _ clock other answered =>
    show (g.shared.limiters.put other c).inFlight key =
      g.exchanging key + (if answer = .granted then other :: g.held else g.held).count key
    rw [Limiters.inFlight_acquire answered, before]
    by_cases granted : answer = .granted
    · by_cases hk : key = other
      · simp [granted, hk]
        omega
      · simp [granted, hk, Ne.symm hk]
    · simp [granted]
  | returns clock other completion holds =>
    show (g.shared.limiters.put other _).inFlight key =
      g.exchanging key + (g.held.erase other).count key
    rw [Limiters.inFlight_release, before]
    by_cases hk : key = other
    -- a permit that is held is counted, so that to give it back takes one away
    · have one : 0 < g.held.count other := List.count_pos_iff.mpr holds
      rw [if_pos hk, hk, List.count_erase_self]
      omega
    · rw [if_neg hk, List.count_erase_of_ne hk]
      rfl

theorem fresh_balanced (preferred : Preferred e.endpoints) : (fresh preferred).Balanced :=
  fun _ => rfl

theorem Reaches.balanced (reached : Reaches g h) (balanced : g.Balanced) : h.Balanced := by
  induction reached with
  | refl => exact balanced
  | tail _ step ih => exact step.balanced ih

/-- Every call of the crowd has ended; those that were dropped are not in it. -/
def IsOver (g : Crowd e) : Prop := ∀ c ∈ g.calls, ∃ result, c.2 = .finished result

theorem IsOver.exchanging (ended : g.IsOver) (key : String) : g.exchanging key = 0 := by
  refine List.countP_eq_zero.mpr fun c among => ?_
  obtain ⟨result, stands⟩ := ended c among
  rw [stands]
  simp [Point.isExchanging]

/-- However the calls of an engine take their steps and are dropped, and whatever others borrow, a
limiter has lent one permit to each call of its key that is in an exchange and one to each other
holder, so that whoever gives one back finds it counted. Whenever all calls are over it has lent
what it had lent when all were over before, if others hold as many. A call that is dropped gives
back what it holds and teaches its limiter nothing. -/
theorem permits_conserved {preferred : Preferred e.endpoints}
    (reached : Reaches (fresh preferred) g) :
    (∀ key, g.shared.limiters.inFlight key = g.exchanging key + g.held.count key) ∧
    (∀ c ∈ g.calls, c.2.isExchanging → 0 < g.shared.limiters.inFlight c.1.key) ∧
    (∀ key ∈ g.held, 0 < g.shared.limiters.inFlight key) ∧
    (g.IsOver → ∀ h, Reaches g h → h.IsOver → ∀ key, h.held.count key = g.held.count key →
      h.shared.limiters.inFlight key = g.shared.limiters.inFlight key) ∧
    ∀ c ∈ g.calls, ∀ clock key,
      (Session.cancel e clock (g.session c)).1.limiters.inFlight key + c.1.holds c.2 key =
        g.shared.limiters.inFlight key ∧
      (Session.cancel e clock (g.session c)).1.limiters.learned? key =
        g.shared.limiters.learned? key := by
  have balanced := reached.balanced (fresh_balanced preferred)
  refine ⟨balanced, ?_, ?_, ?_, ?_⟩
  · intro c among exchanging
    have covered := balanced.covers among c.1.key
    rwa [Call.holds_exchanging exchanging, if_pos rfl] at covered
  · intro key holds
    have one : 0 < g.held.count key := List.count_pos_iff.mpr holds
    rw [balanced key]
    omega
  · intro ended h on gone key same
    rw [on.balanced balanced key, balanced key, ended.exchanging, gone.exchanging, same]
  · intro c among clock key
    exact ⟨Session.cancel_gives_back clock (g.session c) (balanced.covers among) key,
      Session.learned?_cancel clock (g.session c) (balanced.covers among) key⟩

/-- An engine with one endpoint, which makes one attempt. -/
def lone : Engine :=
  { service := "orders"
    endpoints := ⟨[⟨"http".toList, some ⟨[], none, .domain "a".toList, none⟩, .rooted [[]], none,
      none⟩], by simp⟩
    backoff := .never
    maxRelocations := 0
    attemptTimeout := .ofMillis 1000
    maxRetryAfter := .ofMillis 1000
    limiter := {}
    observer := .silent }

/-- One call in its exchange, while somebody else holds a permit of the same key. -/
theorem permits_conserved_lone :
    ∃ g : Crowd lone, Reaches (fresh (.first lone.endpoints)) g ∧ g.exchanging "orders" = 1 ∧
      g.held.count "orders" = 1 ∧ g.shared.limiters.inFlight "orders" = 2 := by
  let clock : Clock := ⟨0, 0⟩
  let o : CallOptions := ⟨.of "GET" "/", none, .empty⟩
  let first : Crowd lone := fresh (.first lone.endpoints)
  let lent := (first.shared.limiters.obtain clock "orders").1.acquire.2.1
  let shared := (first.withLimiter "orders" lent).shared
  let s := (Session.start lone clock shared o).1
  let t := (Session.enter lone clock 0 s .init).1
  let u := (Session.enter lone clock 0 t .attempting).1
  have borrows : Step first ⟨shared, [], ["orders"]⟩ := .borrows clock "orders" rfl
  have begins : Step ⟨shared, [], ["orders"]⟩ ⟨s.shared, [(s.call, s.point)], ["orders"]⟩ :=
    .begins clock o rfl
  have enters : Step ⟨s.shared, [(s.call, s.point)], ["orders"]⟩
      ⟨t.shared, [(t.call, t.point)], ["orders"]⟩ :=
    @Step.moves _ _ clock [] [] _ _ _ rfl (.enter 0 rfl)
  have attempts : Step ⟨t.shared, [(t.call, t.point)], ["orders"]⟩
      ⟨u.shared, [(u.call, u.point)], ["orders"]⟩ :=
    @Step.moves _ _ clock [] [] _ _ _ rfl (.enter 0 rfl)
  have reached : Reaches first ⟨u.shared, [(u.call, u.point)], ["orders"]⟩ :=
    (((Relation.ReflTransGen.single borrows).tail begins).tail enters).tail attempts
  have one : exchanging (e := lone) ⟨u.shared, [(u.call, u.point)], ["orders"]⟩ "orders" = 1 := by
    decide +kernel
  have counted := (permits_conserved reached).1 "orders"
  rw [one] at counted
  exact ⟨_, reached, one, rfl, counted⟩

end Crowd
end Failover
