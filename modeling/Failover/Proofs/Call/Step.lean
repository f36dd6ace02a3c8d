import Failover.Simulation.Workload
import Mathlib.Logic.Relation

/-!
# Steps of a call

What one call can do next, whoever drives it. `Step` puts the functions that run together; nothing
is assumed of the servers, of the jitter or of the moment. `Transition` is the same relation row by
row, one row for each way on, and `Step.transition` is the only place where the functions of a call
are opened: what follows about calls is proved on the rows.
-/

namespace Failover

/-- The call with one more attempt. -/
def Call.tried (c : Call) : Call := { c with attempts := c.attempts + 1 }

/-- The record of an attempt that was refused a permit. -/
def Call.refusal (c : Call) : AttemptRecord :=
  { attempt := c.attempts, endpoint := c.endpoint.text, verdict := .admissionRefused,
    status := none, latencyMs := 0 }

/-- Why a call fails that cannot be moved to another endpoint. -/
def SelectionError.failure : SelectionError → CallFailure
  | .limitExceeded limit => .relocations limit
  | _ => .endpoints

namespace Session

variable {e : Engine}

/-! ## The relation -/

/-- One step of a call at a moment, with what happens on it: it enters the phase ahead, asks again
for a permit, hears how its exchange ended, or has paused long enough. -/
inductive Step (e : Engine) (clock : Clock) :
    Session e.endpoints → Session e.endpoints → List Event → Prop
  | enter {s : Session e.endpoints} {phase : Phase} (drawn : Nat)
      (stands : s.point = .entering phase) :
      Step e clock s (enter e clock drawn s phase).1 (enter e clock drawn s phase).2
  | ask {s : Session e.endpoints} {url : Url} {signals : Nat} (drawn : Nat)
      (stands : s.point = .waiting url signals) :
      Step e clock s (seekPermit e clock drawn s url).1 (seekPermit e clock drawn s url).2
  | hear {s : Session e.endpoints} {url : Url} {started : Nat} {request : WireRequest}
      (drawn : Nat) (result : Except TransportError Response)
      (stands : s.point = .exchanging url started request) :
      Step e clock s (settle e clock drawn s url started result).1
        (settle e clock drawn s url started result).2
  | resume {s : Session e.endpoints} {moment : Nat} (stands : s.point = .pausing moment)
      (due : moment ≤ clock.elapsed) :
      Step e clock s { s with point := .entering .attempting } []

/-- One step of a call after others changed what it shares with them, at any moment. -/
def Onward (e : Engine) (s t : Session e.endpoints) : Prop :=
  ∃ clock shared events, Step e clock { s with shared } t events

/-- A call on its way: `t` is a state that it can come to from `s`. -/
def Reaches (e : Engine) : Session e.endpoints → Session e.endpoints → Prop :=
  Relation.ReflTransGen (Onward e)

/-- The call waits for a permit. -/
def IsWaiting (s : Session e.endpoints) : Prop := ∃ url signals, s.point = .waiting url signals

/-- The call has ended. -/
def IsFinished (s : Session e.endpoints) : Prop := ∃ result, s.point = .finished result

/-! ## Its rows -/

/-- A session that asks for a permit for `url`, at the start of an attempt or after it was woken;
`a` is the session with the attempt counted. -/
inductive Asks (s : Session e.endpoints) : Session e.endpoints → Url → List Event → Prop
  | anew {url : Url} (stands : s.point = .entering .attempting)
      (read : Url.parse (target s.call.endpoint s.call.path) = .ok url) :
      Asks s { s with call := s.call.tried } url [.stageEntered .attempting]
  | again {url : Url} {signals : Nat} (stands : s.point = .waiting url signals) :
      Asks s s url []

/-- The event of an attempt that has its permit. -/
def startEvent (e : Engine) (s : Session e.endpoints) (url : Url) : Event :=
  .attemptStarted e.observer s.call.context s.call.attempts url s.call.endpoint

/-- The ways on of a call, one row each. -/
inductive Transition (e : Engine) (clock : Clock) (s : Session e.endpoints) :
    Session e.endpoints → List Event → Prop
  | begins (stands : s.point = .entering .init) :
      Transition e clock s (s.toward s.call .attempting) [.stageEntered .init]
  | unreadable {error : UrlError} (stands : s.point = .entering .attempting)
      (bad : Url.parse (target s.call.endpoint s.call.path) = .error error) :
      Transition e clock s
        (s.toward s.call.tried (.failed (.fatal (.invalidRequest error.message) none)))
        [.stageEntered .attempting]
  | waits {a : Session e.endpoints} {url : Url} {front events : List Event} {c : Controller}
      {signals : Nat} (asks : Asks s a url front)
      (answer : (a.limiter clock).acquire = (.waiting signals, c, events)) :
      Transition e clock s { a.withLimiter c with point := .waiting url signals } (front ++ events)
  | refused {a : Session e.endpoints} {url : Url} {front events more : List Event}
      {c : Controller} {error : AdmissionError} {drawn : Nat} {call : Call} {phase : Phase}
      (asks : Asks s a url front)
      (answer : (a.limiter clock).acquire = (.refused error, c, events))
      (retried : (a.call.record a.call.refusal).retry e drawn none (.capacity error) =
        (call, phase, more)) :
      Transition e clock s ((a.withLimiter c).toward call phase)
        (front ++ (events ++ [.attemptRefused a.call.attempts a.call.endpoint error,
          .attemptRecorded a.call.refusal Span.zero] ++ more))
  | sends {a : Session e.endpoints} {url : Url} {front events : List Event} {c : Controller}
      {request : WireRequest} (asks : Asks s a url front)
      (answer : (a.limiter clock).acquire = (.granted, c, events))
      (built : a.call.request.sentTo url = .ok request) :
      Transition e clock s { a.withLimiter c with point := .exchanging url clock.elapsed request }
        (front ++ (events ++ [startEvent e a url, .requestSent request]))
  | unsendable {a t : Session e.endpoints} {url : Url} {front events more : List Event}
      {c : Controller} {error : TransportError} {drawn : Nat} (asks : Asks s a url front)
      (answer : (a.limiter clock).acquire = (.granted, c, events))
      (bad : a.call.request.sentTo url = .error error)
      (settled : settle e clock drawn (a.withLimiter c) url clock.elapsed (.error error) =
        (t, more)) :
      Transition e clock s t (front ++ (events ++ startEvent e a url :: more))
  | hears {t : Session e.endpoints} {url : Url} {started : Nat} {request : WireRequest}
      {drawn : Nat} {result : Except TransportError Response} {events : List Event}
      (stands : s.point = .exchanging url started request)
      (settled : settle e clock drawn s url started result = (t, events)) :
      Transition e clock s t events
  | relocates {aim : Relocation} {delay : Option Span} {selection : Selection}
      {selector : Selector} (stands : s.point = .entering (.relocating aim delay))
      (moved : s.call.selector.relocate aim = .ok (selection, selector)) :
      Transition e clock s
        { s with
          call := { s.call with selector, path := selection.path.getD s.call.path }
          point := .pausing (clock.due ((delay.map e.bounded).getD Span.zero)) }
        (.stageEntered .relocating ::
          .relocated s.call.endpoint selection.base selector.relocations :: e.capping delay)
  | stranded {aim : Relocation} {delay : Option Span} {error : SelectionError}
      (stands : s.point = .entering (.relocating aim delay))
      (stuck : s.call.selector.relocate aim = .error error) :
      Transition e clock s (s.toward s.call (.failed error.failure)) [.stageEntered .relocating]
  | backsOff {delay : Span} (stands : s.point = .entering (.backingOff delay)) :
      Transition e clock s { s with point := .pausing (clock.due delay) }
        [.stageEntered .backingOff, .backedOff delay s.call.retries]
  | resumes {moment : Nat} (stands : s.point = .pausing moment) (due : moment ≤ clock.elapsed) :
      Transition e clock s { s with point := .entering .attempting } []
  | succeeds {response : Response} (stands : s.point = .entering (.succeeded response)) :
      Transition e clock s
        { s with
          point := .finished (.ok ⟨response, s.call.attempts, s.call.relocations,
            s.call.endpoint, s.call.history⟩) }
        [.stageEntered .succeeded, .callSucceeded s.call.attempts s.call.relocations]
  | fails {failure : CallFailure} (stands : s.point = .entering (.failed failure)) :
      Transition e clock s
        { s with
          point := .finished (.error ⟨failure, s.call.attempts, s.call.endpoint,
            s.call.history⟩) }
        [.stageEntered .failed,
          .callFailed s.call.attempts s.call.retries s.call.relocations failure]

/-- A session that asks for a permit is answered in one of four ways. -/
theorem Asks.transition {clock : Clock} {s a : Session e.endpoints} {url : Url}
    {front : List Event} (asks : Asks s a url front) (drawn : Nat) :
    Transition e clock s (seekPermit e clock drawn a url).1
      (front ++ (seekPermit e clock drawn a url).2) := by
  rcases h : (a.limiter clock).acquire with ⟨answer, c, events⟩
  cases answer with
  | granted =>
    have hw : (a.withLimiter c).call = a.call := rfl
    cases hr : a.call.request.sentTo url with
    | ok request =>
      simp only [seekPermit, h, send, hw, hr]
      exact .sends asks h hr
    | error error =>
      rcases hs : settle e clock drawn (a.withLimiter c) url clock.elapsed (.error error) with
        ⟨t, more⟩
      simp only [seekPermit, h, send, hw, hr, hs]
      exact .unsendable asks h hr hs
  | refused error =>
    rcases hr : (a.call.record a.call.refusal).retry e drawn none (.capacity error) with
      ⟨call, phase, more⟩
    have hr' := hr
    simp only [Call.refusal] at hr'
    simp only [seekPermit, h, hr']
    exact .refused asks h hr
  | waiting signals =>
    simp only [seekPermit, h]
    exact .waits asks h

/-- An attempt with a URL to ask asks for its permit. -/
theorem attempt_of_ok {clock : Clock} {drawn : Nat} {s : Session e.endpoints} {url : Url}
    (read : Url.parse (target s.call.endpoint s.call.path) = .ok url) :
    attempt e clock drawn s = seekPermit e clock drawn { s with call := s.call.tried } url := by
  rw [attempt]
  simp only [Call.endpoint] at read
  simp only [Call.endpoint, read, Call.tried]

/-- An attempt without a URL to ask is the end of the call. -/
theorem attempt_of_error {clock : Clock} {drawn : Nat} {s : Session e.endpoints} {error : UrlError}
    (bad : Url.parse (target s.call.endpoint s.call.path) = .error error) :
    attempt e clock drawn s =
      (s.toward s.call.tried (.failed (.fatal (.invalidRequest error.message) none)), []) := by
  rw [attempt]
  simp only [Call.endpoint] at bad
  simp only [Call.endpoint, bad, Call.tried]

/-- Entering a phase is one of the rows. -/
theorem transition_enter {clock : Clock} {s : Session e.endpoints} {phase : Phase} (drawn : Nat)
    (stands : s.point = .entering phase) :
    Transition e clock s (enter e clock drawn s phase).1 (enter e clock drawn s phase).2 := by
  cases phase with
  | init => exact .begins stands
  | attempting =>
    cases h : Url.parse (target s.call.endpoint s.call.path) with
    | ok url =>
      have row : Transition e clock s _ _ := (Asks.anew stands h).transition drawn
      rw [enter]
      simp only [attempt_of_ok h]
      exact row
    | error error =>
      rw [enter]
      simp only [attempt_of_error h]
      exact .unreadable stands h
  | relocating aim delay =>
    cases h : s.call.selector.relocate aim with
    | ok moved =>
      obtain ⟨selection, selector⟩ := moved
      simp only [enter, relocate, h]
      exact .relocates stands h
    | error error =>
      cases error <;> simp only [enter, relocate, h] <;> exact .stranded stands h
  | backingOff delay => exact .backsOff stands
  | succeeded response => exact .succeeds stands
  | failed failure => exact .fails stands

/-- Every step is one of the rows. -/
theorem Step.transition {clock : Clock} {s t : Session e.endpoints} {events : List Event}
    (step : Step e clock s t events) : Transition e clock s t events := by
  cases step with
  | enter drawn stands => exact transition_enter drawn stands
  | ask drawn stands => exact (Asks.again stands).transition drawn
  | hear drawn result stands => exact .hears stands rfl
  | resume stands due => exact .resumes stands due

end Session

/-! ## The end of an attempt -/

/-- A retry changes nothing of a call but where it is in its policy. -/
theorem Call.retry_frame (c : Call) (e : Engine) (drawn : Nat) (after : Option Span)
    (exhausted : CallFailure) :
    (c.retry e drawn after exhausted).1 =
      { c with cursor := (c.retry e drawn after exhausted).1.cursor } := by
  unfold retry
  split <;> rfl

theorem Call.eq_of_retry {c d : Call} {e : Engine} {drawn : Nat} {after : Option Span}
    {exhausted : CallFailure} {phase : Phase} {events : List Event}
    (retried : c.retry e drawn after exhausted = (d, phase, events)) :
    d = { c with cursor := d.cursor } := by
  have frame := c.retry_frame e drawn after exhausted
  rwa [retried] at frame

/-- An attempt that had its permit and has ended: its number, where it was made and when, and what
came of it at which moment. -/
structure Exchange where
  attempt : Nat
  endpoint : Url
  url : Url
  began : Nat
  ended : Clock
  result : Except TransportError Response

namespace Exchange

def latency (x : Exchange) : Span := x.ended.since x.began

def outcome (x : Exchange) : Outcome := .of x.ended x.url x.result

/-- What the limiter is told. -/
def completion (x : Exchange) : Completion := Session.completion x.outcome x.latency

def record (x : Exchange) : AttemptRecord :=
  { attempt := x.attempt
    endpoint := x.endpoint.text
    verdict := x.outcome.verdict
    status := x.result.toOption.map (·.status)
    latencyMs := Word64.wrap x.latency.millis }

end Exchange

namespace Session

variable {e : Engine}

/-- The attempt of a session that ends now. -/
def exchange (s : Session e.endpoints) (clock : Clock) (url : Url) (started : Nat)
    (result : Except TransportError Response) : Exchange :=
  ⟨s.call.attempts, s.call.endpoint, url, started, clock, result⟩

/-- The session after its limiter was told of an attempt and the record was written. -/
def told (s : Session e.endpoints) (x : Exchange) : Session e.endpoints :=
  { s.withLimiter ((s.limiter x.ended).release x.ended x.completion).1 with
    call := s.call.record x.record }

/-- An attempt ends with a report to the limiter, then the record, and then what follows. -/
theorem settle_follow {clock : Clock} {drawn started : Nat} {s t : Session e.endpoints}
    {url : Url} {result : Except TransportError Response} {events : List Event}
    (settled : settle e clock drawn s url started result = (t, events)) :
    ∃ x, x = s.exchange clock url started result ∧
      t = (follow e drawn (s.told x) x.outcome).1 ∧
      events = ((s.limiter clock).release clock x.completion).2 ++
        [.attemptCompleted x.record, .attemptRecorded x.record x.latency,
          .attemptFinished e.observer s.call.context x.record] ++
        (follow e drawn (s.told x) x.outcome).2 :=
  ⟨_, rfl, (congrArg (·.1) settled).symm, (congrArg (·.2) settled).symm⟩

/-- What follows an attempt changes nothing of the call but where it is in its policy. -/
theorem follow_call_frame (drawn : Nat) (s : Session e.endpoints) (outcome : Outcome) :
    (follow e drawn s outcome).1.call =
      { s.call with cursor := (follow e drawn s outcome).1.call.cursor } := by
  cases outcome with
  | transportFailure cause => exact Call.retry_frame ..
  | throttled after => exact Call.retry_frame ..
  | _ => rfl

/-- The end of an attempt adds its record. -/
theorem settle_history {clock : Clock} {drawn started : Nat} {s t : Session e.endpoints}
    {url : Url} {result : Except TransportError Response} {events : List Event}
    (settled : settle e clock drawn s url started result = (t, events)) :
    t.call.history = s.call.history ++ [(s.exchange clock url started result).record] := by
  obtain ⟨x, rfl, rfl, _⟩ := settle_follow settled
  exact congrArg (·.history) (follow_call_frame drawn (s.told _) _)

/-- After the end of an attempt a call enters a phase. -/
theorem settle_enters {clock : Clock} {drawn started : Nat} {s t : Session e.endpoints}
    {url : Url} {result : Except TransportError Response} {events : List Event}
    (settled : settle e clock drawn s url started result = (t, events)) :
    ∃ phase, t.point = .entering phase := by
  obtain ⟨x, _, rfl, _⟩ := settle_follow settled
  cases x.outcome <;> exact ⟨_, rfl⟩

/-- A session that asks for a permit has the records that it had. -/
theorem Asks.history {s a : Session e.endpoints} {url : Url} {front : List Event}
    (asks : Asks s a url front) : a.call.history = s.call.history := by
  cases asks <;> rfl

/-- A call keeps its records. -/
theorem Transition.history {clock : Clock} {s t : Session e.endpoints} {events : List Event}
    (row : Transition e clock s t events) : s.call.history <+: t.call.history := by
  cases row with
  | waits asks answer => exact asks.history ▸ List.prefix_rfl
  | @refused a _ _ _ _ _ _ drawn call _ asks answer retried =>
    have kept : call.history = (a.call.record a.call.refusal).history :=
      congrArg (·.history) (Call.eq_of_retry retried)
    show s.call.history <+: call.history
    rw [kept, ← asks.history]
    exact List.prefix_append ..
  | sends asks answer built => exact asks.history ▸ List.prefix_rfl
  | @unsendable a _ _ _ _ _ c _ _ asks answer bad settled =>
    have asked : (a.withLimiter c).call.history = s.call.history := asks.history
    rw [settle_history settled, asked]
    exact List.prefix_append ..
  | hears stands settled =>
    rw [settle_history settled]
    exact List.prefix_append ..
  | _ => exact List.prefix_rfl

end Session

/-- A call on its way through a scripted network goes by steps, and notes what happens on them. -/
theorem Travel.step?_step {e : Engine} {clock : Clock} {t u : Travel e.endpoints}
    (h : Travel.step? e clock t = some u) :
    ∃ events, Session.Step e clock t.session u.session events ∧ u.events = t.events ++ events := by
  obtain ⟨session, reply, script, before⟩ := t
  simp only [Travel.step?] at h
  split at h
  · rename_i phase stands
    cases h
    refine ⟨(Session.enter e clock 0 session phase).2, ?_, ?_⟩
    · split <;> exact .enter 0 stands
    · split <;> rfl
  · rename_i url signals stands
    split at h
    · cases h
    · cases h
      refine ⟨(Session.seekPermit e clock 0 session url).2, ?_, ?_⟩
      · split <;> exact .ask 0 stands
      · split <;> rfl
  · rename_i url started request stands
    -- whatever ends the exchange, the call hears one result
    have hears : ∀ result, some
        { session := (Session.settle e clock 0 session url started result).1, reply := none, script,
          events := before ++ (Session.settle e clock 0 session url started result).2 } = some u →
        ∃ events, Session.Step e clock session u.session events ∧ u.events = before ++ events := by
      intro result h
      cases h
      exact ⟨_, .hear 0 result stands, rfl⟩
    repeat' split at h
    all_goals first | exact hears _ h | cases h
  · rename_i moment stands
    split at h
    · rename_i due
      cases h
      exact ⟨[], .resume stands due, by simp⟩
    · cases h
  · cases h

end Failover
