import Failover.Proofs.Call.Encounter
import Failover.Proofs.Call.Permits
import Failover.Proofs.Call.Story
import Failover.Proofs.Limiter.Reached

/-!
# A call that runs alone

A call that runs while nobody else holds a permit of its key does not notice the limiter. It holds
one permit at most and gives it back before it asks for the next one, so that there is always room
when it asks; and nothing that it does but the answer to that depends on a limiter. So it goes
exactly as it would with the limiter switched off, step by step.
-/

namespace Failover

/-! ## What is seen of a limiter -/

/-- Whether an event only tells how a limiter fares. -/
def Event.isGauge : Event → Bool
  | .limiterCreated _ _ | .limitSet _ _ | .limitChanged _ _ _ _ | .inFlightSet _ _
  | .permitReleased _ _ => true
  | _ => false

/-- Whether an event tells that a caller was refused a permit, or has to wait for one. -/
def Event.isRefusal : Event → Bool
  | .permitAwaited _ _ | .permitRefused _ | .attemptRefused _ _ _ => true
  | _ => false

/-- What happens but for how the limiters fare. -/
def visible (events : List Event) : List Event := events.filter (!·.isGauge)

/-- Whether nobody is refused a permit or has to wait for one. -/
def unrefused (events : List Event) : Bool := events.all (!·.isRefusal)

@[simp] theorem visible_append (events later : List Event) :
    visible (events ++ later) = visible events ++ visible later := List.filter_append ..

@[simp] theorem unrefused_append (events later : List Event) :
    unrefused (events ++ later) = (unrefused events && unrefused later) := List.all_append ..

/-- Gauges are not seen. -/
theorem visible_of_gauges {events : List Event}
    (gauges : ∀ event ∈ events, event.isGauge = true) : visible events = [] := by
  refine List.filter_eq_nil_iff.mpr fun event among => ?_
  simp [gauges event among]

/-- Gauges refuse nobody. -/
theorem unrefused_of_gauges {events : List Event}
    (gauges : ∀ event ∈ events, event.isGauge = true) : unrefused events = true := by
  refine List.all_eq_true.mpr fun event among => ?_
  have gauge := gauges event among
  cases event <;> first | rfl | cases gauge

namespace Controller

theorem gauges_inFlight (c : Controller) : ∀ event ∈ c.inFlightGauge, event.isGauge = true := by
  unfold inFlightGauge
  split <;> simp [Event.isGauge]

theorem gauges_observe (c : Controller) (clock : Clock) (see : Window → Window) :
    ∀ event ∈ (c.observe clock see).2, event.isGauge = true := by
  unfold observe roll
  split
  · simp
  · simp only
    split
    · simp only
      split <;> simp [Event.isGauge]
    · simp

/-- A limiter that gets a permit back tells how it fares. -/
theorem gauges_release (c : Controller) (clock : Clock) (completion : Completion) :
    ∀ event ∈ (c.release clock completion).2, event.isGauge = true := by
  have learned : ∀ event ∈ (c.learn clock completion).2, event.isGauge = true := by
    cases completion with
    | success rtt => exact gauges_observe c clock _
    | dropped => exact gauges_observe c clock _
    | ignored => simp [learn]
  intro event among
  change event ∈ .permitReleased c.name completion :: (c.learn clock completion).2 ++
    inFlightGauge _ at among
  rcases List.mem_append.mp among with front | gauge
  · rcases List.mem_cons.mp front with rfl | told
    · rfl
    · exact learned event told
  · exact gauges_inFlight _ event gauge

/-- So does one that lends a permit. -/
theorem gauges_acquire {c d : Controller} {events : List Event}
    (granted : c.acquire = (.granted, d, events)) : ∀ event ∈ events, event.isGauge = true := by
  rw [acquire, tryAcquire] at granted
  by_cases room : c.hasRoom
  · rw [if_pos room] at granted
    cases granted
    exact gauges_inFlight _
  · rw [if_neg room] at granted
    cases hm : c.mode <;> simp only [hm] at granted <;> cases granted

end Controller

/-- So does one that is made. -/
theorem Limiters.gauges_obtain (ls : Limiters) (clock : Clock) (key : String) :
    ∀ event ∈ (ls.obtain clock key).2, event.isGauge = true := by
  unfold obtain create
  split
  · simp
  · by_cases enabled : ls.settings.enabled = true
    · rw [if_pos enabled]
      simp [Controller.adaptive, Event.isGauge]
    · rw [if_neg enabled]
      simp [Event.isGauge]

namespace Session

variable {e : Engine} {s t a : Session e.endpoints} {settings others : LimiterSettings}
  {clock : Clock} {url : Url} {front events : List Event} {shared plain : Shared e.endpoints}

/-! ## Alone with a limiter -/

/-- No permit of the call's key is out but the one that the call itself may hold, whatever the
limiter of the key went through before. -/
def IsAlone (settings : LimiterSettings) (s : Session e.endpoints) : Prop :=
  s.shared.limiters.HasLent settings s.call.key (if s.point.isExchanging then 1 else 0)

/-- A call outside of exchanges holds no permit. -/
theorem IsAlone.idle (h : s.IsAlone settings) (still : s.point.isExchanging = false) :
    s.shared.limiters.HasLent settings s.call.key 0 := by
  rw [IsAlone, still] at h
  exact h

theorem isAlone_of_idle (key : t.call.key = s.call.key)
    (free : t.shared.limiters.HasLent settings s.call.key 0)
    (still : t.point.isExchanging = false) : t.IsAlone settings := by
  rw [IsAlone, still, key]
  exact free

/-- A call that is about to enter a phase waits for no permit. -/
theorem not_isWaiting (enters : ∃ phase, t.point = .entering phase) : ¬t.IsWaiting := by
  rintro ⟨_, _, waits⟩
  obtain ⟨_, stands⟩ := enters
  cases stands.symm.trans waits

theorem Asks.unrefused (asks : Asks s a url front) : Failover.unrefused front = true := by
  cases asks <;> rfl

/-- A call that is alone gets the permit that it asks for. -/
theorem Asks.granted (asks : Asks s a url front) (h : s.IsAlone settings) :
    ∃ c events, (a.limiter clock).acquire = (.granted, c, events) ∧
      (a.withLimiter c).shared.limiters.HasLent settings a.call.key 1 := by
  obtain ⟨shared, key, still⟩ := asks.frame
  have free := h.idle still
  rw [← shared, ← key] at free
  exact free.acquire clock

theorem unrefused_capping (after : Option Span) : unrefused (e.capping after) = true := by
  unfold Engine.capping
  split
  · split <;> rfl
  · rfl

/-- What follows an attempt refuses nobody. -/
theorem unrefused_follow (drawn : Nat) (s : Session e.endpoints) (outcome : Outcome) :
    unrefused (follow e drawn s outcome).2 = true := by
  have retried : ∀ after exhausted,
      unrefused (s.call.retry e drawn after exhausted).2.2 = true := by
    intro after exhausted
    unfold Call.retry
    split
    · exact unrefused_capping after
    · rfl
  cases outcome with
  | transportFailure cause => exact retried none (.transport cause)
  | throttled after => exact retried after .throttled
  | _ => rfl

/-- The end of an attempt gives the permit back and refuses nobody. -/
theorem settle_alone {drawn started : Nat} {result : Except TransportError Response}
    (h : s.shared.limiters.HasLent settings s.call.key 1)
    (settled : settle e clock drawn s url started result = (t, events)) :
    t.IsAlone settings ∧ unrefused events = true := by
  obtain ⟨x, made, rfl, rfl⟩ := settle_follow settled
  obtain ⟨limiters, key, still⟩ := follow_frame (e := e) drawn (s.told x) x.outcome
  constructor
  · refine isAlone_of_idle (s := s) key ?_ still
    rw [limiters]
    exact h.release x.ended x.completion
  · rw [unrefused_append, unrefused_append, unrefused_follow,
      unrefused_of_gauges ((s.limiter clock).gauges_release clock _)]
    rfl

/-- A call that is alone stays alone on every step, and neither waits for a permit nor is refused
one. -/
theorem Transition.alone (row : Transition e clock s t events) (h : s.IsAlone settings) :
    t.IsAlone settings ∧ ¬t.IsWaiting ∧ unrefused events = true := by
  -- most steps do not go near the limiter
  have quiet : s.point.isExchanging = false → t.point.isExchanging = false →
      t.call.key = s.call.key → t.shared.limiters = s.shared.limiters → t.IsAlone settings := by
    intro still stays key same
    refine isAlone_of_idle key ?_ stays
    rw [same]
    exact h.idle still
  have idle : ∀ {p : Point}, s.point = p → p.isExchanging = false → s.point.isExchanging = false :=
    fun stands still => by rw [stands, still]
  cases row with
  | begins stands =>
    exact ⟨quiet (idle stands rfl) rfl rfl rfl, by rintro ⟨_, _, ⟨⟩⟩, rfl⟩
  | unreadable stands bad =>
    exact ⟨quiet (idle stands rfl) rfl rfl rfl, by rintro ⟨_, _, ⟨⟩⟩, rfl⟩
  | waits asks answer =>
    obtain ⟨_, _, granted, _⟩ := asks.granted h
    cases answer.symm.trans granted
  | refused asks answer retried =>
    obtain ⟨_, _, granted, _⟩ := asks.granted h
    cases answer.symm.trans granted
  | sends asks answer built =>
    obtain ⟨_, _, granted, lent⟩ := asks.granted h
    cases answer.symm.trans granted
    refine ⟨lent, by rintro ⟨_, _, ⟨⟩⟩, ?_⟩
    rw [unrefused_append, unrefused_append, asks.unrefused,
      unrefused_of_gauges (Controller.gauges_acquire answer)]
    rfl
  | @unsendable a _ url _ _ more c _ _ asks answer bad settled =>
    obtain ⟨_, _, granted, lent⟩ := asks.granted h
    cases answer.symm.trans granted
    obtain ⟨alone, quiet⟩ := settle_alone (s := a.withLimiter c) lent settled
    refine ⟨alone, not_isWaiting (settle_enters settled), ?_⟩
    have starts : unrefused (startEvent e a url :: more) = unrefused more := rfl
    rw [unrefused_append, unrefused_append, asks.unrefused, starts, quiet,
      unrefused_of_gauges (Controller.gauges_acquire answer)]
    rfl
  | hears stands settled =>
    rw [IsAlone, stands] at h
    obtain ⟨alone, quiet⟩ := settle_alone h settled
    exact ⟨alone, not_isWaiting (settle_enters settled), quiet⟩
  | relocates stands moved =>
    exact ⟨quiet (idle stands rfl) rfl rfl rfl, by rintro ⟨_, _, ⟨⟩⟩, unrefused_capping _⟩
  | stranded stands stuck =>
    exact ⟨quiet (idle stands rfl) rfl rfl rfl, by rintro ⟨_, _, ⟨⟩⟩, rfl⟩
  | backsOff stands => exact ⟨quiet (idle stands rfl) rfl rfl rfl, by rintro ⟨_, _, ⟨⟩⟩, rfl⟩
  | resumes stands due => exact ⟨quiet (idle stands rfl) rfl rfl rfl, by rintro ⟨_, _, ⟨⟩⟩, rfl⟩
  | succeeds stands => exact ⟨quiet (idle stands rfl) rfl rfl rfl, by rintro ⟨_, _, ⟨⟩⟩, rfl⟩
  | fails stands => exact ⟨quiet (idle stands rfl) rfl rfl rfl, by rintro ⟨_, _, ⟨⟩⟩, rfl⟩

theorem meet_alone (h : s.IsAlone settings) (awake : ¬s.IsWaiting) (x : Encounter) :
    (meet e s x).1.IsAlone settings ∧ ¬(meet e s x).1.IsWaiting ∧
      unrefused (meet e s x).2 = true := by
  rcases meet_step s x with ⟨_, same⟩ | step
  · rw [same]
    exact ⟨h, awake, rfl⟩
  · exact step.transition.alone h

/-! ## Two limiters -/

/-- Two sessions come to the same, and the same is seen of both. -/
structure Agrees (p q : Session e.endpoints × List Event) : Prop where
  call : q.1.call = p.1.call
  point : q.1.point = p.1.point
  seen : visible q.2 = visible p.2

theorem Agrees.cons {p q : Session e.endpoints × List Event} (h : Agrees p q) (event : Event) :
    Agrees (p.1, event :: p.2) (q.1, event :: q.2) where
  call := h.call
  point := h.point
  seen := by
    show visible ([event] ++ q.2) = visible ([event] ++ p.2)
    rw [visible_append, visible_append, h.seen]

/-- What follows an attempt depends on the call alone. -/
theorem follow_agrees (drawn : Nat) (outcome : Outcome) (call : t.call = s.call) :
    Agrees (follow e drawn s outcome) (follow e drawn t outcome) := by
  obtain ⟨shared, c, p⟩ := s
  obtain ⟨plain, _, q⟩ := t
  cases call
  cases outcome <;> exact ⟨rfl, rfl, rfl⟩

/-- So does the end of an attempt. -/
theorem settle_agrees (drawn started : Nat) (url : Url) (result : Except TransportError Response)
    (call : t.call = s.call) :
    Agrees (settle e clock drawn s url started result)
      (settle e clock drawn t url started result) := by
  obtain ⟨x, met, here, told⟩ :=
    settle_follow (Prod.eta (settle e clock drawn s url started result)).symm
  obtain ⟨y, met', here', told'⟩ :=
    settle_follow (Prod.eta (settle e clock drawn t url started result)).symm
  have same : y = x := by simp only [met, met', exchange, call]
  subst same
  have told_call : (t.told y).call = (s.told y).call := congrArg (·.record y.record) call
  have agrees := follow_agrees (e := e) drawn y.outcome told_call
  refine ⟨?_, ?_, ?_⟩
  · rw [here, here']
    exact agrees.call
  · rw [here, here']
    exact agrees.point
  · rw [told, told']
    simp only [visible_append, agrees.seen, call,
      visible_of_gauges ((s.limiter clock).gauges_release clock _),
      visible_of_gauges ((t.limiter clock).gauges_release clock _)]

/-- A call with its permit sends its request whatever the limiter. -/
theorem send_agrees (clock : Clock) (drawn : Nat) (url : Url) (call : t.call = s.call) :
    Agrees (send e clock drawn s url) (send e clock drawn t url) := by
  unfold send
  rw [call]
  cases s.call.request.sentTo url with
  | ok request => exact ⟨rfl, rfl, rfl⟩
  | error error => exact (settle_agrees drawn clock.elapsed url (.error error) call).cons _

/-- With no permit out, both limiters grant one. -/
theorem seekPermit_agrees (drawn : Nat) (url : Url) (call : t.call = s.call)
    (free : s.shared.limiters.HasLent settings s.call.key 0)
    (free' : t.shared.limiters.HasLent others t.call.key 0) :
    Agrees (seekPermit e clock drawn s url) (seekPermit e clock drawn t url) := by
  obtain ⟨c, events, granted, _⟩ := free.acquire clock
  obtain ⟨d, events', granted', _⟩ := free'.acquire clock
  have lent : (s.limiter clock).acquire = (.granted, c, events) := granted
  have lent' : (t.limiter clock).acquire = (.granted, d, events') := granted'
  have agrees := send_agrees (e := e) (s := s.withLimiter c) (t := t.withLimiter d) clock drawn url
    call
  simp only [seekPermit, lent, lent']
  refine ⟨agrees.call, agrees.point, ?_⟩
  rw [visible_append, visible_append, agrees.seen,
    visible_of_gauges (Controller.gauges_acquire lent),
    visible_of_gauges (Controller.gauges_acquire lent')]

/-- Two calls that are the same and alone go on to the same with whatever they meet. -/
theorem meet_agrees (call : t.call = s.call) (point : t.point = s.point)
    (alone : s.IsAlone settings) (alone' : t.IsAlone others) (awake : ¬s.IsWaiting)
    (x : Encounter) : Agrees (meet e s x) (meet e t x) := by
  cases stands : s.point with
  | waiting url signals => exact absurd ⟨url, signals, stands⟩ awake
  | exchanging url started request =>
    have stands' := point.trans stands
    simp only [meet, stands, stands']
    exact settle_agrees _ _ _ _ call
  | pausing moment =>
    have stands' := point.trans stands
    simp only [meet, stands, stands']
    split
    · exact ⟨call, rfl, rfl⟩
    · exact ⟨call, point, rfl⟩
  | finished result =>
    have stands' := point.trans stands
    simp only [meet, stands, stands']
    exact ⟨call, point, rfl⟩
  | entering phase =>
    have stands' := point.trans stands
    have free := alone.idle (by rw [stands]; rfl)
    have free' := alone'.idle (by rw [stands']; rfl)
    simp only [meet, stands, stands']
    cases phase with
    | init => exact ⟨call, rfl, rfl⟩
    | attempting =>
      cases read : Url.parse (target s.call.endpoint s.call.path) with
      | ok url =>
        have read' : Url.parse (target t.call.endpoint t.call.path) = .ok url := call ▸ read
        simp only [enter, attempt_of_ok read, attempt_of_ok read']
        exact (seekPermit_agrees (s := { s with call := s.call.tried })
          (t := { t with call := t.call.tried }) x.drawn url (congrArg Call.tried call) free
          free').cons _
      | error error =>
        have read' : Url.parse (target t.call.endpoint t.call.path) = .error error := call ▸ read
        simp only [enter, attempt_of_error read, attempt_of_error read']
        exact ⟨congrArg Call.tried call, rfl, rfl⟩
    | relocating aim delay =>
      simp only [enter, relocate, call]
      cases s.call.selector.relocate aim with
      | ok moved => exact ⟨rfl, rfl, rfl⟩
      | error error => cases error <;> exact ⟨rfl, rfl, rfl⟩
    | backingOff delay =>
      simp only [enter, call]
      exact ⟨rfl, rfl, rfl⟩
    | succeeded response =>
      simp only [enter, call]
      exact ⟨rfl, rfl, rfl⟩
    | failed failure =>
      simp only [enter, call]
      exact ⟨rfl, rfl, rfl⟩

/-- Two calls that begin alike come to the same, whether their limiter is there or has to be
made. -/
theorem start_agrees (e : Engine) (clock : Clock) {shared plain : Shared e.endpoints}
    (o : CallOptions) (preferred : plain.preferred = shared.preferred) :
    Agrees (start e clock shared o) (start e clock plain o) where
  call := by simp only [start, preferred]
  point := rfl
  seen := by
    simp only [start, visible_append,
      visible_of_gauges (shared.limiters.gauges_obtain clock _),
      visible_of_gauges (plain.limiters.gauges_obtain clock _)]

theorem start_alone (clock : Clock) (o : CallOptions)
    (free : shared.limiters.HasLent settings (o.key.getD e.service) 0) :
    (start e clock shared o).1.IsAlone settings ∧
      unrefused (start e clock shared o).2 = true := by
  obtain ⟨reached, idle⟩ := free.obtain clock
  constructor
  · have put := free.put reached
    rw [idle] at put
    exact put
  · have opens : unrefused [.callOpened e.service o.request.method o.request.path] = true := rfl
    simp only [start]
    rw [unrefused_append, unrefused_of_gauges (shared.limiters.gauges_obtain clock _), opens]
    rfl

/-! ## Runs -/

/-- What is seen in a log. -/
def seen (log : List (Nat × Event)) : List (Nat × Event) := log.filter (!·.2.isGauge)

@[simp] theorem seen_append (log later : List (Nat × Event)) :
    seen (log ++ later) = seen log ++ seen later := List.filter_append ..

@[simp] theorem seen_at (moment : Nat) (events : List Event) :
    seen (events.map (moment, ·)) = (visible events).map (moment, ·) := List.filter_map ..

/-- Runs of a call that is alone: how many steps were made, what the call has come to, and what
happened. What the call meets is up to the world, which sees all that happens but for how the
limiters fare; and before each step others may do to what is shared whatever they like, so long as
they hold no permit of the call's key. -/
inductive Alone (e : Engine) (settings : LimiterSettings)
    (world : Nat → List (Nat × Event) → Encounter) (clock : Clock) (shared : Shared e.endpoints)
    (o : CallOptions) : Nat → Session e.endpoints → List (Nat × Event) → Prop
  | starts : Alone e settings world clock shared o 0 (start e clock shared o).1
      ((start e clock shared o).2.map (clock.elapsed, ·))
  | goes {n : Nat} {s : Session e.endpoints} {log : List (Nat × Event)}
      (run : Alone e settings world clock shared o n s log) (change : Shared e.endpoints)
      (alone : IsAlone settings { s with shared := change }) :
      Alone e settings world clock shared o (n + 1)
        (meet e { s with shared := change } (world n (seen log))).1
        (log ++ (meet e { s with shared := change } (world n (seen log))).2.map
          ((world n (seen log)).clock.elapsed, ·))

variable {world : Nat → List (Nat × Event) → Encounter} {o : CallOptions} {n : Nat}
  {log log' : List (Nat × Event)} {u : Session e.endpoints}

/-- A call that is alone stays alone on the whole run, and neither waits for a permit nor is refused
one. -/
theorem Alone.unhindered (run : Alone e settings world clock shared o n t log)
    (free : shared.limiters.HasLent settings (o.key.getD e.service) 0) :
    t.IsAlone settings ∧ ¬t.IsWaiting ∧ ∀ entry ∈ log, entry.2.isRefusal = false := by
  -- a list of events that refuses nobody, written down with its moment
  have entered : ∀ {moment : Nat} {events : List Event}, unrefused events = true →
      ∀ entry ∈ events.map (moment, ·), entry.2.isRefusal = false := by
    intro moment events quiet entry among
    obtain ⟨event, told, rfl⟩ := List.mem_map.mp among
    simpa using List.all_eq_true.mp quiet event told
  induction run with
  | starts =>
    obtain ⟨alone, quiet⟩ := start_alone clock o free
    exact ⟨alone, by rintro ⟨_, _, ⟨⟩⟩, entered quiet⟩
  | @goes n s log _ change alone ih =>
    obtain ⟨_, awake, quiet⟩ := ih
    obtain ⟨alone', awake', more⟩ :=
      meet_alone (s := { s with shared := change }) alone awake (world n (seen log))
    refine ⟨alone', awake', fun entry among => ?_⟩
    rcases List.mem_append.mp among with before | now
    · exact quiet entry before
    · exact entered more entry now

/-- With nobody there to do anything in between, a call that is alone runs on and on. -/
theorem exists_alone (free : shared.limiters.HasLent settings (o.key.getD e.service) 0)
    (world : Nat → List (Nat × Event) → Encounter) (n : Nat) :
    ∃ t log, Alone e settings world clock shared o n t log := by
  induction n with
  | zero => exact ⟨_, _, .starts⟩
  | succ n ih =>
    obtain ⟨s, log, run⟩ := ih
    exact ⟨_, _, run.goes s.shared (run.unhindered free).1⟩

/-- Two runs of the same call in the same world come to the same, whatever their limiters. -/
theorem Alone.agrees (run : Alone e settings world clock shared o n t log)
    (run' : Alone e others world clock plain o n u log')
    (free : shared.limiters.HasLent settings (o.key.getD e.service) 0)
    (preferred : plain.preferred = shared.preferred) :
    u.call = t.call ∧ u.point = t.point ∧ seen log' = seen log := by
  induction run generalizing u log' with
  | starts =>
    cases run' with
    | starts =>
      have agrees := start_agrees e clock o preferred
      exact ⟨agrees.call, agrees.point, by rw [seen_at, seen_at, agrees.seen]⟩
  | @goes n s log run change alone ih =>
    cases run' with
    | @goes _ s' log' run' change' alone' =>
      obtain ⟨call, point, same⟩ := ih run'
      rw [same]
      have agrees := meet_agrees (s := { s with shared := change })
        (t := { s' with shared := change' }) call point alone alone' (run.unhindered free).2.1
        (world n (seen log))
      exact ⟨agrees.call, agrees.point, by simp only [seen_append, seen_at, same, agrees.seen]⟩

/-! ## The main result -/

/-- A call that runs while nobody else holds a permit of its key never waits for one and is never
refused one, whatever the limiter of the key went through before, and goes exactly as the same call
goes with the limiter switched off: after as many steps it stands where that one stands, with the
same history, retries and relocations, and the same was seen on the way, every request, pause and
result at the same moment. -/
theorem alone_as_unlimited
    (free : shared.limiters.HasLent settings (o.key.getD e.service) 0)
    (off : plain.limiters.HasLent { settings with enabled := false } (o.key.getD e.service) 0)
    (preferred : plain.preferred = shared.preferred)
    (world : Nat → List (Nat × Event) → Encounter) (n : Nat) :
    (∃ t log, Alone e settings world clock shared o n t log) ∧
    (∃ u log, Alone e { settings with enabled := false } world clock plain o n u log) ∧
    ∀ t log, Alone e settings world clock shared o n t log →
      ¬t.IsWaiting ∧ (∀ entry ∈ log, entry.2.isRefusal = false) ∧
      ∀ u log', Alone e { settings with enabled := false } world clock plain o n u log' →
        u.call = t.call ∧ u.point = t.point ∧ seen log' = seen log := by
  refine ⟨exists_alone free world n, exists_alone off world n, fun t log run => ?_⟩
  obtain ⟨_, awake, quiet⟩ := run.unhindered free
  exact ⟨awake, quiet, fun u log' run' => run.agrees run' free preferred⟩

/-- A limiter that lent a permit and learned that the attempt came to nothing. -/
def worn : Controller :=
  let c := (Limiters.create {} "orders" ⟨0, 0⟩).1
  (Controller.release { c with inFlight := c.inFlight + 1 } ⟨0, 0⟩ .dropped).1

/-- A call that both endpoints turn away gets its two permits of such a limiter, and fails as it
would without one. -/
theorem alone_as_unlimited_turnedAway :
    ∃ t log, Alone couple {} (fun _ _ => ⟨⟨0, 0⟩, 0, .ok ⟨⟨503⟩, [], []⟩⟩) ⟨0, 0⟩
        ⟨.first couple.endpoints, (Limiters.ofSettings {}).put "orders" worn⟩
        ⟨.of "GET" "/", none, .empty⟩ 9 t log ∧
      t.call.attempts = 2 ∧ t.IsFinished ∧ ∀ entry ∈ log, entry.2.isRefusal = false := by
  let x : Encounter := ⟨⟨0, 0⟩, 0, .ok ⟨⟨503⟩, [], []⟩⟩
  let o : CallOptions := ⟨.of "GET" "/", none, .empty⟩
  let shared : Shared couple.endpoints :=
    ⟨.first couple.endpoints, (Limiters.ofSettings {}).put "orders" worn⟩
  let plain : Shared couple.endpoints := ⟨.first couple.endpoints, .ofSettings { enabled := false }⟩
  have reached : Controller.Reached {} "orders" worn :=
    .takesBack (.lends (.made ⟨0, 0⟩) (by decide +kernel)) (Nat.succ_pos _) ⟨0, 0⟩ .dropped
  have free : shared.limiters.HasLent {} (o.key.getD couple.service) 0 :=
    (Limiters.ofSettings_hasLent {} "orders").put reached
  have off : plain.limiters.HasLent { enabled := false } (o.key.getD couple.service) 0 :=
    Limiters.ofSettings_hasLent { enabled := false } "orders"
  -- without a limiter everything can be computed
  let unlimited (n : Nat) := (fun s => (meet couple s x).1)^[n] (start couple ⟨0, 0⟩ plain o).1
  have runs : ∀ n, ∃ log, Alone couple { enabled := false } (fun _ _ => x) ⟨0, 0⟩ plain o n
      (unlimited n) log := by
    intro n
    induction n with
    | zero => exact ⟨_, .starts⟩
    | succ n ih =>
      obtain ⟨log, run⟩ := ih
      have next := run.goes (unlimited n).shared (run.unhindered off).1
      have moves : unlimited (n + 1) = (meet couple (unlimited n) x).1 :=
        Function.iterate_succ_apply' ..
      exact ⟨_, moves ▸ next⟩
  have attempts : (unlimited 9).call.attempts = 2 := by decide +kernel
  have fails : (unlimited 9).point.result?.isSome = true := by decide +kernel
  obtain ⟨⟨t, log, run⟩, _, agrees⟩ := alone_as_unlimited (o := o) free off rfl (fun _ _ => x) 9
  obtain ⟨log', run'⟩ := runs 9
  obtain ⟨_, quiet, same⟩ := agrees t log run
  obtain ⟨call, point, _⟩ := same _ log' run'
  obtain ⟨result, ended⟩ := Option.isSome_iff_exists.mp fails
  refine ⟨t, log, run, call ▸ attempts, ⟨result, ?_⟩, quiet⟩
  rw [← point]
  exact Point.result?_eq_some_iff.mp ended

end Session
end Failover
