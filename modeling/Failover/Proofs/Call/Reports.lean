import Failover.Journal.Metrics
import Failover.Proofs.Call.Keys
import Failover.Proofs.Call.Story

/-!
# Reports of the attempts

An observer, the limiter, the history and the metrics are told of an attempt at different places.
All that they are told stands in the journal, and each attempt has its own stretch of it: its
account. What is told on a course is one account after the other, whatever the attempts come to, and
what is pending of the attempt under way. Where it is told that a permit is back, the limiter of the
call has taken it back on the same step.
-/

namespace Failover

/-! ## Events that report -/

/-- Whether an event tells somebody of an attempt or of the end of the call. -/
def Event.isReport : Event → Bool
  | .attemptRefused _ _ _ | .attemptStarted _ _ _ _ _ | .requestSent _ | .permitReleased _ _
  | .attemptRecorded _ _ | .attemptFinished _ _ _ | .callSucceeded _ _ | .callFailed _ _ _ _ => true
  | _ => false

/-- The reports among events. -/
def reported (events : List Event) : List Event := events.filter (·.isReport)

section reported

variable {e : Engine}

@[simp] theorem reported_append (events later : List Event) :
    reported (events ++ later) = reported events ++ reported later := List.filter_append ..

theorem reported_acquire {c d : Controller} {answer : Controller.Admission} {events : List Event}
    (h : c.acquire = (answer, d, events)) : reported events = [] := by
  rw [Controller.acquire, Controller.tryAcquire] at h
  by_cases room : c.hasRoom
  · rw [if_pos room] at h
    cases h
    unfold Controller.inFlightGauge
    split <;> rfl
  · rw [if_neg room] at h
    cases hm : c.mode <;> simp only [hm] at h <;> cases h <;> rfl

theorem reported_observe (c : Controller) (clock : Clock) (see : Window → Window) :
    reported (c.observe clock see).2 = [] := by
  unfold Controller.observe Controller.roll
  split
  · rfl
  · simp only
    split
    · simp only
      split <;> rfl
    · rfl

/-- A limiter that gets a permit back tells this once. -/
theorem reported_release (c : Controller) (clock : Clock) (completion : Completion) :
    reported (c.release clock completion).2 = [.permitReleased c.name completion] := by
  have learned : reported (c.learn clock completion).2 = [] := by
    cases completion with
    | success rtt => exact reported_observe ..
    | dropped => exact reported_observe ..
    | ignored => rfl
  have gauge : ∀ d : Controller, reported d.giveBack.2 = [] := by
    intro d
    unfold Controller.giveBack Controller.inFlightGauge
    simp only
    split <;> rfl
  show reported ([.permitReleased c.name completion] ++ (c.learn clock completion).2 ++
    (c.learn clock completion).1.giveBack.2) = _
  rw [reported_append, reported_append, learned, gauge]
  rfl

theorem reported_capping (after : Option Span) : reported (e.capping after) = [] := by
  unfold Engine.capping
  split
  · split <;> rfl
  · rfl

/-- To begin a call reports nothing. -/
theorem reported_start (clock : Clock) (shared : Shared e.endpoints) (o : CallOptions) :
    reported (Session.start e clock shared o).2 = [] := by
  have obtained : reported (shared.limiters.obtain clock (o.key.getD e.service)).2 = [] := by
    unfold Limiters.obtain Limiters.create
    split
    · rfl
    · by_cases enabled : shared.limiters.settings.enabled
      · rw [if_pos enabled]
        rfl
      · rw [if_neg enabled]
        rfl
  show reported ((shared.limiters.obtain clock (o.key.getD e.service)).2 ++
    [.callOpened e.service o.request.method o.request.path]) = []
  rw [reported_append, obtained]
  rfl

end reported

/-! ## What an attempt comes to -/

/-- What the limiter is told of an attempt follows from its outcome alone. -/
theorem Exchange.completion_iff (x : Exchange) :
    (x.completion = .dropped ↔
      x.record.verdict.label ∈ ["throttled", "unavailable", "transport_failure"]) ∧
    (x.completion = .ignored ↔
      ∃ reason response, x.outcome = .fatal (.invalidRequest reason) response) ∧
    ∀ rtt, x.completion = .success rtt → rtt = x.latency := by
  have verdict : x.record.verdict = x.outcome.verdict := rfl
  rw [verdict, completion, Session.completion]
  cases x.outcome with
  | fatal cause response =>
    cases cause <;> simp [Outcome.isDrop, Outcome.isLocal, Outcome.verdict, Verdict.label, eq_comm]
  | _ => simp [Outcome.isDrop, Outcome.isLocal, Outcome.verdict, Verdict.label, eq_comm]

/-- An account of an attempt on record: it had its permit, from a limiter of this name, or was
refused it. -/
inductive Account where
  | served (x : Exchange) (limiter : String)
  | refused (attempt : Nat) (endpoint : Url) (error : AdmissionError) (moment : Nat)

/-- How an attempt with its permit begins: it starts, and its request is sent if there is one. -/
def opening (observer : Observer) (o : CallOptions) (attempt : Nat) (url endpoint : Url)
    (began : Nat) : List (Nat × Event) :=
  (began, .attemptStarted observer o.context attempt url endpoint) ::
    match o.request.sentTo url with
    | .ok request => [(began, .requestSent request)]
    | .error _ => []

namespace Account

def record : Account → AttemptRecord
  | .served x _ => x.record
  | .refused attempt endpoint _ _ =>
    { attempt, endpoint := endpoint.text, verdict := .admissionRefused, status := none,
      latencyMs := 0 }

/-- What an attempt comes to, in order: after its start the release of its permit, its record and
its finish; or a refusal and its record alone. -/
def entries (observer : Observer) (o : CallOptions) : Account → List (Nat × Event)
  | .served x limiter =>
    opening observer o x.attempt x.url x.endpoint x.began ++
      [(x.ended.elapsed, .permitReleased limiter x.completion),
        (x.ended.elapsed, .attemptRecorded x.record x.latency),
        (x.ended.elapsed, .attemptFinished observer o.context x.record)]
  | .refused attempt endpoint error moment =>
    [(moment, .attemptRefused attempt endpoint error),
      (moment, .attemptRecorded (refused attempt endpoint error moment).record Span.zero)]

/-- An attempt whose request cannot be built ends with that error. -/
def IsHonest (o : CallOptions) : Account → Prop
  | .served x _ => ∀ error, o.request.sentTo x.url = .error error → x.result = .error error
  | .refused _ _ _ _ => True

end Account

/-- To go on after an attempt reports nothing, and leaves a call what it was made of. -/
theorem Call.retry_silent {c call : Call} {e : Engine} {drawn : Nat} {after : Option Span}
    {exhausted : CallFailure} {phase : Phase} {events : List Event}
    (h : c.retry e drawn after exhausted = (call, phase, events)) :
    call.context = c.context ∧ call.request = c.request ∧ call.history = c.history ∧
    reported events = [] := by
  unfold retry at h
  split at h
  · cases h
    exact ⟨rfl, rfl, rfl, reported_capping after⟩
  · cases h
    exact ⟨rfl, rfl, rfl, rfl⟩

/-- The event of the end of a call. -/
def Call.ending (c : Call) : CallResult → Event
  | .ok _ => .callSucceeded c.attempts c.relocations
  | .error error => .callFailed c.attempts c.retries c.relocations error.failure

namespace Session

variable {e : Engine} {clock : Clock} {s t a : Session e.endpoints} {o : CallOptions}
  {accounts : List Account} {log : List (Nat × Event)}

/-- What was told at a point beyond the accounts of the attempts that have ended. -/
def Pending (o : CallOptions) (s : Session e.endpoints) (rest : List (Nat × Event)) : Prop :=
  match s.point with
  | .exchanging url started request =>
    o.request.sentTo url = .ok request ∧
      rest = opening e.observer o s.call.attempts url s.call.endpoint started
  | .finished result => ∃ moment, rest = [(moment, s.call.ending result)]
  | _ => rest = []

/-- What was told on a course: the accounts of the attempts on record, one after the other, and what
is pending. -/
structure Tells (o : CallOptions) (s : Session e.endpoints) (accounts : List Account)
    (log : List (Nat × Event)) : Prop where
  context : s.call.context = o.context
  request : s.call.request = o.request
  history : s.call.history = accounts.map Account.record
  honest : ∀ r ∈ accounts, r.IsHonest o
  told : ∃ rest, Pending o s rest ∧
    log.filter (·.2.isReport) = accounts.flatMap (Account.entries e.observer o) ++ rest

theorem filter_moment (events : List Event) (moment : Nat) :
    (events.map (moment, ·)).filter (·.2.isReport) = (reported events).map (moment, ·) := by
  rw [List.filter_map, reported]
  rfl

/-- What was pending before a step and what the step tells come to the accounts of the attempts that
it ends and to what is pending after it. -/
theorem Tells.step {events : List Event} {moment : Nat} {before after : List (Nat × Event)}
    (h : s.Tells o accounts log) (new : List Account)
    (hs : ∀ rest, s.Pending o rest → rest = before) (ht : t.Pending o after)
    (context : t.call.context = s.call.context)
    (request : t.call.request = s.call.request)
    (history : t.call.history = s.call.history ++ new.map Account.record)
    (honest : ∀ r ∈ new, r.IsHonest o)
    (told : before ++ (reported events).map (moment, ·) =
      new.flatMap (Account.entries e.observer o) ++ after) :
    t.Tells o (accounts ++ new) (log ++ events.map (moment, ·)) where
  context := context.trans h.context
  request := request.trans h.request
  history := by rw [history, h.history, List.map_append]
  honest r among := (List.mem_append.mp among).elim (h.honest r) (honest r)
  told := by
    obtain ⟨rest, pending, all⟩ := h.told
    refine ⟨after, ht, ?_⟩
    rw [List.filter_append, all, hs rest pending, filter_moment, List.append_assoc, told,
      List.flatMap_append, List.append_assoc]

/-- A step that ends no attempt and reports nothing. -/
theorem Tells.silent {events : List Event} {moment : Nat} (h : s.Tells o accounts log)
    (hs : ∀ rest, s.Pending o rest → rest = []) (ht : t.Pending o [])
    (same : t.call.context = s.call.context ∧ t.call.request = s.call.request ∧
      t.call.history = s.call.history) (silent : reported events = []) :
    t.Tells o accounts (log ++ events.map (moment, ·)) := by
  obtain ⟨context, request, history⟩ := same
  have told : [] ++ (reported events).map (moment, ·) =
      [].flatMap (Account.entries e.observer o) ++ [] := by simp [silent]
  have kept : t.call.history = s.call.history ++ [].map Account.record := by simp [history]
  simpa using h.step [] hs ht context request kept (by simp) told

/-- A session that asks for a permit has told nothing of the attempt yet. -/
theorem Asks.silent {url : Url} {front : List Event} (asks : Asks s a url front) :
    a.call.context = s.call.context ∧ a.call.request = s.call.request ∧ reported front = [] ∧
    ∀ rest, s.Pending o rest → rest = [] := by
  cases asks with
  | anew stands read => exact ⟨rfl, rfl, rfl, by simp [Pending, stands]⟩
  | again stands => exact ⟨rfl, rfl, rfl, by simp [Pending, stands]⟩

/-- What follows an attempt reports nothing and leads to a phase, where nothing is pending. -/
theorem follow_silent (o : CallOptions) (drawn : Nat) (s : Session e.endpoints)
    (outcome : Outcome) :
    ((follow e drawn s outcome).1.call.context = s.call.context ∧
      (follow e drawn s outcome).1.call.request = s.call.request ∧
      (follow e drawn s outcome).1.Pending o []) ∧
    reported (follow e drawn s outcome).2 = [] := by
  have retried : ∀ after exhausted,
      ((s.call.retry e drawn after exhausted).1.context = s.call.context ∧
        (s.call.retry e drawn after exhausted).1.request = s.call.request) ∧
      reported (s.call.retry e drawn after exhausted).2.2 = [] := by
    intro after exhausted
    cases h : s.call.retry e drawn after exhausted
    obtain ⟨context, request, _, silent⟩ := Call.retry_silent h
    exact ⟨⟨context, request⟩, silent⟩
  cases outcome with
  | transportFailure cause =>
    obtain ⟨⟨context, request⟩, silent⟩ := retried none (.transport cause)
    exact ⟨⟨context, request, rfl⟩, silent⟩
  | throttled after =>
    obtain ⟨⟨context, request⟩, silent⟩ := retried after .throttled
    exact ⟨⟨context, request, rfl⟩, silent⟩
  | _ => exact ⟨⟨rfl, rfl, rfl⟩, rfl⟩

/-- The end of an attempt is told to the limiter, then to the history and the metrics, then to the
observer. -/
theorem settle_reported {drawn started : Nat} {url : Url}
    {result : Except TransportError Response} {events : List Event} (o : CallOptions)
    (settled : settle e clock drawn s url started result = (t, events)) :
    let x := s.exchange clock url started result
    (t.call.context = s.call.context ∧ t.call.request = s.call.request ∧ t.Pending o []) ∧
    reported events = [.permitReleased (s.limiter clock).name x.completion,
      .attemptRecorded x.record x.latency,
      .attemptFinished e.observer s.call.context x.record] := by
  obtain ⟨x, rfl, rfl, rfl⟩ := settle_follow settled
  obtain ⟨same, silent⟩ := follow_silent (e := e) o drawn (s.told _) _
  refine ⟨same, ?_⟩
  rw [reported_append, reported_append, reported_release, silent]
  rfl

/-- Every step tells what it has to, and nothing else. -/
theorem Transition.tells {events : List Event} (row : Transition e clock s t events)
    (h : s.Tells o accounts log) :
    ∃ accounts, t.Tells o accounts (log ++ events.map (clock.elapsed, ·)) := by
  cases row with
  | begins stands =>
    exact ⟨_, h.silent (by simp [Pending, stands]) rfl ⟨rfl, rfl, rfl⟩ rfl⟩
  | unreadable stands bad =>
    exact ⟨_, h.silent (by simp [Pending, stands]) rfl ⟨rfl, rfl, rfl⟩ rfl⟩
  | waits asks answer =>
    obtain ⟨context, request, front, none⟩ := asks.silent (o := o)
    refine ⟨_, h.silent none rfl ⟨context, request, asks.history⟩ ?_⟩
    rw [reported_append, front, reported_acquire answer]
    rfl
  | @refused a url _ _ more c error drawn call phase asks answer retried =>
    obtain ⟨context, request, front, none⟩ := asks.silent (o := o)
    obtain ⟨context', request', records, silent⟩ := Call.retry_silent retried
    refine ⟨_, h.step [.refused a.call.attempts a.call.endpoint error clock.elapsed] none rfl
      (context'.trans context) (request'.trans request) ?_ (by simp [Account.IsHonest]) ?_⟩
    · rw [← asks.history]
      exact records
    · simp only [reported_append, front, reported_acquire answer, silent]
      rfl
  | @sends a url _ _ c wire asks answer built =>
    obtain ⟨context, request, front, none⟩ := asks.silent (o := o)
    rw [request, h.request] at built
    refine ⟨_, h.step [] none (t := { a.withLimiter c with point := _ })
      ⟨built, rfl⟩ context request (asks.history.trans (List.append_nil _).symm) (by simp) ?_⟩
    simp only [reported_append, front, reported_acquire answer, opening, built]
    rw [startEvent, context, h.context]
    rfl
  | @unsendable a _ url _ _ more c error _ asks answer bad settled =>
    obtain ⟨context, request, front, none⟩ := asks.silent (o := o)
    obtain ⟨⟨context', request', quiet⟩, told⟩ := settle_reported o settled
    have records := settle_history settled
    rw [request, h.request] at bad
    let x := (a.withLimiter c).exchange clock url clock.elapsed (.error error)
    refine ⟨_, h.step [.served x ((a.withLimiter c).limiter clock).name] none quiet
      (context'.trans context) (request'.trans request) ?_ ?_ ?_⟩
    · rw [records, ← asks.history]
      rfl
    · simp only [List.mem_singleton, forall_eq]
      intro other unbuilt
      cases bad.symm.trans unbuilt
      rfl
    · have own : (a.withLimiter c).call.context = o.context := context.trans h.context
      have starts : reported (startEvent e a url :: more) = startEvent e a url :: reported more :=
        rfl
      have unsent : opening e.observer o x.attempt x.url x.endpoint x.began =
          [(clock.elapsed, startEvent e a url)] := by
        simp only [opening, x, exchange, bad]
        rw [startEvent, context, h.context]
        rfl
      rw [reported_append, reported_append, front, reported_acquire answer, starts, told, own,
        List.flatMap_singleton, Account.entries, unsent]
      rfl
  | @hears _ url started wire _ result _ stands settled =>
    obtain ⟨⟨context, request, quiet⟩, told⟩ := settle_reported o settled
    have built : o.request.sentTo url = .ok wire := by
      obtain ⟨rest, pending, _⟩ := h.told
      rw [Pending, stands] at pending
      exact pending.1
    let x := s.exchange clock url started result
    have begun : ∀ rest, s.Pending o rest →
        rest = opening e.observer o s.call.attempts url s.call.endpoint started := by
      simp [Pending, stands]
    refine ⟨_, h.step [.served x (s.limiter clock).name] begun quiet context request
      (settle_history settled) ?_ ?_⟩
    · simp only [List.mem_singleton, forall_eq]
      intro error unbuilt
      cases built.symm.trans unbuilt
    · rw [told, h.context, List.flatMap_singleton, List.append_nil]
      rfl
  | relocates stands moved =>
    refine ⟨_, h.silent (by simp [Pending, stands]) rfl ⟨rfl, rfl, rfl⟩ ?_⟩
    exact reported_capping _
  | stranded stands stuck =>
    exact ⟨_, h.silent (by simp [Pending, stands]) rfl ⟨rfl, rfl, rfl⟩ rfl⟩
  | backsOff stands =>
    exact ⟨_, h.silent (by simp [Pending, stands]) rfl ⟨rfl, rfl, rfl⟩ rfl⟩
  | resumes stands due =>
    exact ⟨_, h.silent (by simp [Pending, stands]) rfl ⟨rfl, rfl, rfl⟩ rfl⟩
  | succeeds stands =>
    exact ⟨_, h.step [] (by simp [Pending, stands]) ⟨clock.elapsed, rfl⟩ rfl rfl
      (List.append_nil _).symm (by simp) rfl⟩
  | fails stands =>
    exact ⟨_, h.step [] (by simp [Pending, stands]) ⟨clock.elapsed, rfl⟩ rfl rfl
      (List.append_nil _).symm (by simp) rfl⟩

theorem Course.tells {shared : Shared e.endpoints} {tried : List Nat}
    (course : Course e (start e clock shared o).1 t tried log) :
    ∃ accounts, t.Tells o accounts log := by
  refine course.induction (Q := fun s _ log => ∃ accounts, s.Tells o accounts log) ?_ ?_ ?_
  · exact ⟨[], rfl, rfl, rfl, by simp, [], rfl, rfl⟩
  · rintro s _ log change ⟨accounts, told⟩
    exact ⟨accounts, told.context, told.request, told.history, told.honest, told.told⟩
  · rintro _ s t _ log events row ⟨accounts, told⟩
    exact row.tells told

end Session

/-! ## Permits that come back -/

/-- Whether an event tells that a permit is back. -/
def Event.isRelease : Event → Bool
  | .permitReleased _ _ => true
  | _ => false

/-- What is told of permits that are back. -/
def released (events : List Event) : List Event := events.filter (·.isRelease)

@[simp] theorem released_append (events later : List Event) :
    released (events ++ later) = released events ++ released later := List.filter_append ..

theorem released_reported (events : List Event) : released (reported events) = released events := by
  rw [released, reported, List.filter_filter]
  refine List.filter_congr fun event _ => ?_
  cases event <;> rfl

/-- Where nothing is reported no permit comes back. -/
theorem released_eq_nil {events : List Event} (silent : reported events = []) :
    released events = [] := by
  rw [← released_reported, silent]
  rfl

namespace Session

variable {e : Engine} {clock : Clock} {first s t a : Session e.endpoints}
  {log : List (Nat × Event)}

/-- The end of an attempt is one release. -/
theorem settle_released {drawn started : Nat} {url : Url}
    {result : Except TransportError Response} {events : List Event}
    (settled : settle e clock drawn s url started result = (t, events)) :
    released events = [.permitReleased (s.limiter clock).name
      (s.exchange clock url started result).completion] := by
  rw [← released_reported, (settle_reported ⟨s.call.request, none, s.call.context⟩ settled).2]
  rfl

/-- A session that asks for a permit gives none back. -/
theorem Asks.released {url : Url} {front events : List Event} {answer : Controller.Admission}
    {c : Controller} (asks : Asks s a url front)
    (answered : (a.limiter clock).acquire = (answer, c, events)) :
    Failover.released front = [] ∧ Failover.released events = [] := by
  refine ⟨?_, ?_⟩
  · cases asks <;> rfl
  · exact released_eq_nil (reported_acquire answered)

/-- The limiter that a session has asked for a permit has the name that it had. -/
theorem Asks.name_limiter {url : Url} {front events : List Event} {answer : Controller.Admission}
    {c : Controller} (asks : Asks s a url front)
    (answered : (a.limiter clock).acquire = (answer, c, events)) :
    ((a.withLimiter c).limiter clock).name = (s.limiter clock).name := by
  have key : (a.withLimiter c).call.key = s.call.key := asks.frame.2.1
  rw [limiter, asks.acquires answered, key]
  exact s.shared.limiters.name_obtain_serve clock s.call.key .acquire

/-- How a step of a call uses the limiter under its key before a permit comes back on it: to ask for
one, which a call in an exchange does not. -/
def Acquires (s : Session e.endpoints) (uses : List Limiters.Use) : Prop :=
  uses = [] ∨ uses = [.acquire] ∧ s.point.isExchanging = false

/-- On every step it is told that a permit is back exactly when the limiter under the key of the call
takes one back, and it is told so under the name of this limiter. -/
theorem Transition.released {events : List Event} (row : Transition e clock s t events) :
    ∃ asked, s.Acquires asked ∧
      (Failover.released events = [] ∧
        t.shared.limiters = s.shared.limiters.serveAll clock s.call.key asked ∨
      ∃ completion,
        Failover.released events = [.permitReleased (s.limiter clock).name completion] ∧
        t.shared.limiters =
          s.shared.limiters.serveAll clock s.call.key (asked ++ [.release completion])) := by
  -- a session that asks for a permit is in no exchange
  have asking : ∀ {a url front}, Asks s a url front → s.Acquires [.acquire] :=
    fun asks => .inr ⟨rfl, asks.frame.2.2⟩
  cases row with
  | waits asks answer =>
    obtain ⟨front, silent⟩ := asks.released answer
    refine ⟨_, asking asks, .inl ⟨?_, asks.acquires answer⟩⟩
    rw [released_append, front, silent]
    rfl
  | refused asks answer retried =>
    obtain ⟨front, silent⟩ := asks.released answer
    obtain ⟨_, _, _, quiet⟩ := Call.retry_silent retried
    refine ⟨_, asking asks, .inl ⟨?_, asks.acquires answer⟩⟩
    rw [released_append, released_append, released_append, front, silent, released_eq_nil quiet]
    rfl
  | sends asks answer built =>
    obtain ⟨front, silent⟩ := asks.released answer
    refine ⟨_, asking asks, .inl ⟨?_, asks.acquires answer⟩⟩
    rw [released_append, released_append, front, silent]
    rfl
  | @unsendable a _ url _ _ more c error _ asks answer bad settled =>
    obtain ⟨front, silent⟩ := asks.released answer
    have key : (a.withLimiter c).call.key = s.call.key := asks.frame.2.1
    have begun : Failover.released (startEvent e a url :: more) = Failover.released more := rfl
    let x := (a.withLimiter c).exchange clock url clock.elapsed (.error error)
    refine ⟨_, asking asks, .inr ⟨x.completion, ?_, ?_⟩⟩
    · rw [released_append, released_append, front, silent, begun, settle_released settled,
        asks.name_limiter answer]
      rfl
    · rw [Limiters.serveAll_append, ← asks.acquires answer, ← key]
      exact settle_releases settled
  | hears stands settled =>
    exact ⟨[], .inl rfl, .inr ⟨_, settle_released settled, settle_releases settled⟩⟩
  | @relocates _ delay _ _ stands moved =>
    exact ⟨[], .inl rfl, .inl ⟨released_eq_nil (reported_capping delay), rfl⟩⟩
  | _ => exact ⟨[], .inl rfl, .inl ⟨rfl, rfl⟩⟩

/-- The step of a call from `first` on which a permit came back, as its journal tells: at that moment
the limiter under a key, which has the name that is told, took it back and was told the same. -/
inductive GivesBack (e : Engine) (first : Session e.endpoints) (log : List (Nat × Event))
    (key : String) (moment : Nat) (limiter : String) (completion : Completion) : Prop
  | intro {s u : Session e.endpoints} {tried : List Nat} {past later : List (Nat × Event)}
      {shared : Shared e.endpoints} {clock : Clock} {events : List Event}
      {asked : List Limiters.Use} (course : Course e first s tried past)
      (step : Step e clock { s with shared } u events)
      (told : log = past ++ events.map (clock.elapsed, ·) ++ later) (now : clock.elapsed = moment)
      (entry : released events = [.permitReleased limiter completion])
      (name : (shared.limiters.obtain clock key).1.name = limiter) (acquires : s.Acquires asked)
      (served : u.shared.limiters =
        shared.limiters.serveAll clock key (asked ++ [.release completion]))

variable {tried : List Nat} {moment : Nat} {limiter : String} {completion : Completion}

theorem GivesBack.append {key : String}
    (back : GivesBack e first log key moment limiter completion) (more : List (Nat × Event)) :
    GivesBack e first (log ++ more) key moment limiter completion := by
  obtain ⟨course, step, told, now, entry, name, acquires, served⟩ := back
  exact ⟨course, step, by rw [told, List.append_assoc], now, entry, name, acquires, served⟩

/-- A permit that is told to be back on a step is the one that the limiter took back. -/
theorem Transition.mem_released {events : List Event} (row : Transition e clock s t events)
    (told : .permitReleased limiter completion ∈ events) :
    ∃ asked, s.Acquires asked ∧ limiter = (s.limiter clock).name ∧
      Failover.released events = [.permitReleased limiter completion] ∧
      t.shared.limiters =
        s.shared.limiters.serveAll clock s.call.key (asked ++ [.release completion]) := by
  have among : .permitReleased limiter completion ∈ Failover.released events :=
    List.mem_filter.mpr ⟨told, rfl⟩
  obtain ⟨asked, acquires, ⟨none, _⟩ | ⟨other, one, served⟩⟩ := row.released
  · rw [none] at among
    cases among
  · rw [one] at among
    cases List.mem_singleton.mp among
    exact ⟨asked, acquires, rfl, one, served⟩

/-- Whenever a journal tells that a permit is back, the limiter of the call took it back. -/
theorem Course.givesBack (course : Course e first t tried log)
    (told : (moment, .permitReleased limiter completion) ∈ log) :
    GivesBack e first log first.call.key moment limiter completion := by
  induction course with
  | starts => cases told
  | goes course shared step ih =>
    rcases List.mem_append.mp told with before | now
    · exact (ih before).append _
    · obtain ⟨event, among, same⟩ := List.mem_map.mp now
      cases same
      obtain ⟨asked, acquires, name, entry, served⟩ := step.transition.mem_released among
      rw [← course.key]
      exact ⟨course, step, (List.append_nil _).symm, rfl, entry, name.symm, acquires, served⟩

/-- Where limiters have the names of their keys it is told under the key of the call. -/
theorem NamedCourse.released (course : NamedCourse e first t tried log)
    (told : (moment, .permitReleased limiter completion) ∈ log) : limiter = first.call.key := by
  induction course with
  | starts => cases told
  | goes course shared named step ih =>
    rcases List.mem_append.mp told with before | now
    · exact ih before
    · obtain ⟨event, among, same⟩ := List.mem_map.mp now
      cases same
      obtain ⟨_, _, name, _⟩ := step.transition.mem_released among
      rw [name, ← course.course.key]
      exact named.obtain _ _

end Session

/-! ## What is counted -/

/-- The measurements under a name that are made in a journal. -/
def measured (name : String) (log : List (Nat × Event)) : List Measurement :=
  (log.flatMap (·.2.measurements)).filter (·.metric.name == name)

section measured

variable {name : String} {log : List (Nat × Event)}

@[simp] theorem measured_nil : measured name [] = [] := rfl

@[simp] theorem measured_append (later : List (Nat × Event)) :
    measured name (log ++ later) = measured name log ++ measured name later := by
  simp [measured]

theorem measured_cons (entry : Nat × Event) :
    measured name (entry :: log) =
      entry.2.measurements.filter (·.metric.name == name) ++ measured name log := by
  simp [measured]

theorem measured_flatMap {α : Type} (f : α → List (Nat × Event)) (xs : List α) :
    measured name (xs.flatMap f) = xs.flatMap fun x => measured name (f x) := by
  induction xs with
  | nil => rfl
  | cons x xs ih => rw [List.flatMap_cons, measured_append, ih, List.flatMap_cons]

/-- Attempts and calls are counted where they are reported. -/
theorem measured_filter
    (h : name = "resilient_call_attempts_total" ∨ name = "resilient_call_calls_total") :
    measured name (log.filter (·.2.isReport)) = measured name log := by
  have silent : ∀ event : Event, event.isReport = false →
      event.measurements.filter (·.metric.name == name) = [] := by
    intro event
    rcases h with rfl | rfl <;> cases event <;>
      simp [Event.isReport, Event.measurements, Measurement.metric]
  induction log with
  | nil => rfl
  | cons entry log ih =>
    cases tells : entry.2.isReport
    · rw [List.filter_cons, tells, measured_cons, silent _ tells]
      exact ih
    · rw [List.filter_cons, tells, if_pos rfl, measured_cons, measured_cons, ih]

/-- The measurement that counts an attempt under the outcome of its record. -/
def AttemptRecord.counted (r : AttemptRecord) : Measurement :=
  .count ⟨"resilient_call_attempts_total",
    [("endpoint", r.endpoint), ("outcome", r.verdict.label)]⟩

/-- The measurement that counts a call under its result. -/
def CallResult.counted (result : CallResult) : Measurement :=
  .count ⟨"resilient_call_calls_total",
    [("result", (result.failure?.map (·.label)).getD "success")]⟩

theorem Account.measured_entries (observer : Observer) (o : CallOptions) (r : Account) :
    measured "resilient_call_attempts_total" (r.entries observer o) = [r.record.counted] ∧
    measured "resilient_call_calls_total" (r.entries observer o) = [] := by
  have opens : ∀ name attempt url endpoint began,
      measured name (opening observer o attempt url endpoint began) = [] := by
    intro name attempt url endpoint began
    unfold opening
    split <;> simp [measured, Event.measurements]
  cases r with
  | served x limiter =>
    simp [entries, opens, measured_cons, Event.measurements, Measurement.metric,
      AttemptRecord.counted, record]
  | refused attempt endpoint error moment =>
    simp [entries, measured_cons, Event.measurements, Measurement.metric, AttemptRecord.counted]

theorem measured_ending (c : Call) (result : CallResult) (moment : Nat) :
    measured "resilient_call_attempts_total" [(moment, c.ending result)] = [] ∧
    measured "resilient_call_calls_total" [(moment, c.ending result)] = [result.counted] := by
  cases result <;> simp [Call.ending, measured, Event.measurements, Measurement.metric,
    CallResult.counted, CallResult.failure?]

end measured

/-! ## The main result -/

namespace Session

variable {e : Engine} {clock : Clock} {t : Session e.endpoints} {o : CallOptions}
  {log : List (Nat × Event)}

/-- Everybody is told the same of the attempts of a call that has ended. The journal is one account
after the other, and then the end of the call: an attempt that had its permit starts, gives the
permit back, is recorded and finishes before anything is told of the next one; one that was refused
is recorded and nothing else. The history is the records of these accounts. The limiter is told of a
drop exactly for a record that is throttled, unavailable or a failure of the transport, late answers
among them, of nothing to learn exactly for an invalid request, and of the latency otherwise. It is
told so when it takes the permit back: at that moment it is the limiter under the key of the call
that does, and this key is its name where limiters are named so. Each record is counted once under
its outcome, and the call once under its result. -/
theorem attempts_reported {shared : Shared e.endpoints} {tried : List Nat} {result : CallResult}
    (course : Course e (start e clock shared o).1 t tried log)
    (ended : t.point = .finished result) :
    let journal := (start e clock shared o).2.map (clock.elapsed, ·) ++ log
    ∃ (accounts : List Account) (moment : Nat),
      journal.filter (·.2.isReport) =
        accounts.flatMap (Account.entries e.observer o) ++ [(moment, t.call.ending result)] ∧
      result.history = accounts.map Account.record ∧
      result.history.map (·.attempt) = List.range' 1 accounts.length ∧
      (∀ x limiter, .served x limiter ∈ accounts →
        (x.completion = .dropped ↔
          x.record.verdict.label ∈ ["throttled", "unavailable", "transport_failure"]) ∧
        (x.completion = .ignored ↔
          ∃ reason response, x.outcome = .fatal (.invalidRequest reason) response) ∧
        (∀ rtt, x.completion = .success rtt → rtt = x.latency) ∧
        (∀ deadline, x.result = .error (.timeout deadline) → x.completion = .dropped) ∧
        (∀ error, o.request.sentTo x.url = .error error → x.result = .error error) ∧
        GivesBack e (start e clock shared o).1 log (o.key.getD e.service) x.ended.elapsed limiter
          x.completion ∧
        (NamedCourse e (start e clock shared o).1 t tried log →
          limiter = o.key.getD e.service)) ∧
      measured "resilient_call_attempts_total" journal = result.history.map (·.counted) ∧
      measured "resilient_call_calls_total" journal = [result.counted] := by
  intro journal
  obtain ⟨accounts, tells⟩ := course.tells
  obtain ⟨rest, pending, told⟩ := tells.told
  rw [Pending, ended] at pending
  obtain ⟨moment, rfl⟩ := pending
  have chronicle := course.chronicle (start_chronicle e clock shared o)
  obtain ⟨ending, rfl, how⟩ := chronicle.ended ended
  have all : journal.filter (·.2.isReport) = accounts.flatMap (Account.entries e.observer o) ++
      [(moment, t.call.ending (t.call.result ending))] := by
    rw [List.filter_append, filter_moment, reported_start, told]
    rfl
  have history : (t.call.result ending).history = accounts.map Account.record :=
    (Call.history_result ..).trans tells.history
  refine ⟨accounts, moment, all, history, ?_, ?_, ?_, ?_⟩
  · have numbered := how.records.1
    rwa [tells.history, ← history, history, List.length_map, ← history] at numbered
  · intro x limiter among
    obtain ⟨dropped, ignored, latency⟩ := x.completion_iff
    have released : (x.ended.elapsed, .permitReleased limiter x.completion) ∈ log := by
      have entry : (x.ended.elapsed, .permitReleased limiter x.completion) ∈
          accounts.flatMap (Account.entries e.observer o) :=
        List.mem_flatMap_of_mem among (by simp [Account.entries])
      have reports := List.mem_append_left [(moment, t.call.ending (t.call.result ending))] entry
      rw [← told] at reports
      exact (List.mem_filter.mp reports).1
    refine ⟨dropped, ignored, latency, ?_, tells.honest _ among, course.givesBack released,
      fun named => named.released released⟩
    intro deadline late
    rw [Exchange.completion, Exchange.outcome, late]
    rfl
  · have each : (fun r : Account =>
        measured "resilient_call_attempts_total" (r.entries e.observer o)) =
        fun r => [r.record.counted] := funext fun r => (r.measured_entries e.observer o).1
    rw [← measured_filter (.inl rfl), all, measured_append, measured_flatMap,
      (measured_ending ..).1, history, List.append_nil, List.map_map, each, List.map_eq_flatMap]
    rfl
  · have none : (accounts.flatMap fun r =>
        measured "resilient_call_calls_total" (r.entries e.observer o)) = [] :=
      List.flatMap_eq_nil_iff.mpr fun r _ => (r.measured_entries e.observer o).2
    rw [← measured_filter (.inr rfl), all, measured_append, measured_flatMap,
      (measured_ending ..).2, none, List.nil_append]

/-- Two attempts that were turned away are counted, and the call once as one that found no endpoint
left. Their permits came back to the limiter of the service. -/
theorem attempts_reported_turnedAway :
    ∃ t tried log result, NamedCourse couple turnedAway.session t tried log ∧
      t.point = .finished result ∧
      let o : CallOptions := ⟨.of "GET" "/", none, .empty⟩
      let journal := (start couple ⟨0, 0⟩ couple.fresh o).2.map (0, ·) ++ log
      (∃ (accounts : List Account) (moment : Nat), journal.filter (·.2.isReport) =
          accounts.flatMap (Account.entries .silent o) ++ [(moment, t.call.ending result)] ∧
        accounts.length = 2 ∧ ∀ x limiter, .served x limiter ∈ accounts → limiter = "orders") ∧
      measured "resilient_call_attempts_total" journal =
        ["http://a/", "http://b/"].map (fun endpoint => .count ⟨"resilient_call_attempts_total",
          [("endpoint", endpoint), ("outcome", "unavailable")]⟩) ∧
      measured "resilient_call_calls_total" journal =
        [.count ⟨"resilient_call_calls_total", [("result", "endpoints_exhausted")]⟩] := by
  have begins : turnedAway.session.shared.limiters.IsNamed :=
    (Limiters.isNamed_ofSettings couple.limiter).serve ⟨0, 0⟩ "orders" .look
  obtain ⟨tried, log, named⟩ := Travel.run_namedCourse ⟨0, 0⟩ begins
  have ends : (Travel.run couple ⟨0, 0⟩ turnedAway).session.point.result?.map (fun result =>
      (result.failure?, result.history.map fun r => (r.endpoint, r.verdict))) =
      some (some .endpoints,
        [("http://a/", .unavailable), ("http://b/", .unavailable)]) := by decide +kernel
  obtain ⟨result, ended, story⟩ := Option.map_eq_some_iff.mp ends
  have stands := Point.result?_eq_some_iff.mp ended
  obtain ⟨accounts, moment, all, records, _, served, attempts, calls⟩ :=
    attempts_reported named.course stands
  obtain ⟨failure, history⟩ := Prod.mk.inj story
  have counted : result.history.map (·.counted) =
      (result.history.map fun r => (r.endpoint, r.verdict)).map fun r =>
        .count ⟨"resilient_call_attempts_total",
          [("endpoint", r.1), ("outcome", r.2.label)]⟩ := by
    rw [List.map_map]
    rfl
  refine ⟨_, tried, log, result, named, stands, ⟨accounts, moment, all, ?_, ?_⟩,
    attempts.trans ?_, calls.trans ?_⟩
  · have two := congrArg List.length history
    rwa [List.length_map, records, List.length_map] at two
  · intro x limiter among
    obtain ⟨_, _, _, _, _, _, own⟩ := served x limiter among
    exact own named
  · rw [counted, history]
    rfl
  · rw [CallResult.counted, failure]
    rfl

end Session
end Failover
