import Failover.Call.Engine

/-! One call, step by step. A call stands at a point; each step takes it to the next one, changes
what the calls of its engine share, and tells what happened. A call waits only for a permit, for
the end of an exchange, or for time to pass, and may be cancelled at any of these points. -/
namespace Failover

/-- What a call is about to do. -/
inductive Phase where
  | init
  | attempting
  | relocating (aim : Relocation) (delay : Option Span)
  | backingOff (delay : Span)
  | succeeded (response : Response)
  | failed (failure : CallFailure)

def Phase.stage : Phase → Stage
  | .init => .init
  | .attempting => .attempting
  | .relocating _ _ => .relocating
  | .backingOff _ => .backingOff
  | .succeeded _ => .succeeded
  | .failed _ => .failed

/-- Where a call stands: before a phase, waiting for a permit with the signals it knows of, in an
exchange since a moment, pausing until a moment before the next attempt, or at its end. -/
inductive Point where
  | entering (phase : Phase)
  | waiting (url : Url) (signals : Nat)
  | exchanging (url : Url) (started : Nat) (request : WireRequest)
  | pausing (moment : Nat)
  | finished (result : CallResult)

/-- What a call asks for. -/
structure CallOptions where
  request : RelativeRequest
  key : Option String
  context : CallContext

/-- What a call keeps for itself. -/
structure Call where
  request : RelativeRequest
  key : String
  context : CallContext
  attempts : Nat
  path : String
  selector : Selector
  cursor : BackoffCursor
  history : List AttemptRecord

namespace Call

def retries (c : Call) : Nat := c.cursor.position

def relocations (c : Call) : Nat := c.selector.relocations

def endpoint (c : Call) : Url := c.selector.currentUrl

/-- The retries and relocations that a call may still make. -/
def budget (c : Call) : Nat := c.cursor.remaining + (c.selector.limit - c.selector.relocations)

/-- Adds a record to the history. -/
def record (c : Call) (r : AttemptRecord) : Call := { c with history := c.history ++ [r] }

/-- The next phase after an attempt that may be repeated: a pause, for as long as the server or else
the policy says, or the end. -/
def retry (c : Call) (e : Engine) (drawn : Nat) (after : Option Span) (exhausted : CallFailure) :
    Call × Phase × List Event :=
  match c.cursor.next? drawn with
  | some (delay, cursor) =>
    ({ c with cursor }, .backingOff ((after.map e.bounded).getD delay), e.capping after)
  | none => (c, .failed exhausted, [])

end Call

/-- A call among what it shares with others. -/
structure Session (set : EndpointSet) where
  shared : Shared set
  call : Call
  point : Point

namespace Session

variable {e : Engine}

/-- Begins a call: its limiter is made if it is the first under its key, and its walk starts at the
preferred endpoint. -/
def start (e : Engine) (clock : Clock) (shared : Shared e.endpoints) (o : CallOptions) :
    Session e.endpoints × List Event :=
  let key := o.key.getD e.service
  let (limiter, events) := shared.limiters.obtain clock key
  let call : Call :=
    { request := o.request, key, context := o.context, attempts := 0, path := o.request.path,
      selector := .startingAt e.endpoints shared.preferred.index e.maxRelocations,
      cursor := .start e.backoff, history := [] }
  (⟨{ shared with limiters := shared.limiters.put key limiter }, call, .entering .init⟩,
    events ++ [.callOpened e.service o.request.method o.request.path])

/-- The limiter of the call. -/
def limiter (s : Session e.endpoints) (clock : Clock) : Controller :=
  (s.shared.limiters.obtain clock s.call.key).1

/-- The session with another state of its limiter. -/
def withLimiter (s : Session e.endpoints) (c : Controller) : Session e.endpoints :=
  { s with shared := { s.shared with limiters := s.shared.limiters.put s.call.key c } }

/-- The session with the call about to enter a phase. -/
def toward (s : Session e.endpoints) (call : Call) (phase : Phase) : Session e.endpoints :=
  { s with call, point := .entering phase }

/-- What the limiter is told about an attempt with this outcome. -/
def completion (outcome : Outcome) (latency : Span) : Completion :=
  if outcome.isDrop then .dropped else if outcome.isLocal then .ignored else .success latency

/-- The next phase after an attempt, with its outcome. -/
def follow (e : Engine) (drawn : Nat) (s : Session e.endpoints) :
    Outcome → Session e.endpoints × List Event
  | .success response =>
    let preferred :=
      if s.call.selector.isKnown s.call.selector.current then
        s.shared.preferred.mark s.call.selector.current
      else s.shared.preferred
    ({ s with shared := { s.shared with preferred }, point := .entering (.succeeded response) }, [])
  | .transportFailure cause =>
    let (call, phase, events) := s.call.retry e drawn none (.transport cause)
    (s.toward call phase, events)
  | .throttled after =>
    let (call, phase, events) := s.call.retry e drawn after .throttled
    (s.toward call phase, events)
  | .unavailable after => (s.toward s.call (.relocating .next after), [])
  | .redirect address => (s.toward s.call (.relocating (.redirect address) none), [])
  | .fatal cause response => (s.toward s.call (.failed (.fatal cause response)), [])

/-- The end of an attempt: the limiter is told first, then the record is written, then the call goes
on. -/
def settle (e : Engine) (clock : Clock) (drawn : Nat) (s : Session e.endpoints) (url : Url)
    (started : Nat) (result : Except TransportError Response) :
    Session e.endpoints × List Event :=
  let latency := clock.since started
  let outcome := Outcome.of clock url result
  let (limiter, released) := (s.limiter clock).release clock (completion outcome latency)
  let record : AttemptRecord :=
    { attempt := s.call.attempts
      endpoint := s.call.endpoint.text
      verdict := outcome.verdict
      status := result.toOption.map (·.status)
      latencyMs := Word64.wrap latency.millis }
  let told := { s.withLimiter limiter with call := s.call.record record }
  let (next, events) := follow e drawn told outcome
  (next, released ++ [.attemptCompleted record, .attemptRecorded record latency,
    .attemptFinished e.observer s.call.context record] ++ events)

/-- An attempt with its permit: the request is sent, or the attempt ends because there is none. -/
def send (e : Engine) (clock : Clock) (drawn : Nat) (s : Session e.endpoints) (url : Url) :
    Session e.endpoints × List Event :=
  let began : Event :=
    .attemptStarted e.observer s.call.context s.call.attempts url s.call.endpoint
  match s.call.request.sentTo url with
  | .ok request =>
    ({ s with point := .exchanging url clock.elapsed request }, [began, .requestSent request])
  | .error error =>
    let (next, events) := settle e clock drawn s url clock.elapsed (.error error)
    (next, began :: events)

/-- An attempt asks for its permit, for the first time or after it was woken. -/
def seekPermit (e : Engine) (clock : Clock) (drawn : Nat) (s : Session e.endpoints) (url : Url) :
    Session e.endpoints × List Event :=
  match (s.limiter clock).acquire with
  | (.granted, limiter, events) =>
    let (next, more) := send e clock drawn (s.withLimiter limiter) url
    (next, events ++ more)
  | (.waiting signals, limiter, events) =>
    ({ s.withLimiter limiter with point := .waiting url signals }, events)
  | (.refused error, limiter, events) =>
    let record : AttemptRecord :=
      { attempt := s.call.attempts, endpoint := s.call.endpoint.text,
        verdict := .admissionRefused, status := none, latencyMs := 0 }
    let (call, phase, more) := (s.call.record record).retry e drawn none (.capacity error)
    ((s.withLimiter limiter).toward call phase,
      events ++ [.attemptRefused s.call.attempts s.call.endpoint error,
        .attemptRecorded record Span.zero] ++ more)

/-- Starts an attempt at the endpoint where the call stands. -/
def attempt (e : Engine) (clock : Clock) (drawn : Nat) (s : Session e.endpoints) :
    Session e.endpoints × List Event :=
  let call := { s.call with attempts := s.call.attempts + 1 }
  match Url.parse (target call.endpoint call.path) with
  | .ok url => seekPermit e clock drawn { s with call } url
  | .error error => (s.toward call (.failed (.fatal (.invalidRequest error.message) none)), [])

/-- Moves the call to another endpoint, if there is one for it, and pauses as the server asked. -/
def relocate (e : Engine) (clock : Clock) (s : Session e.endpoints) (aim : Relocation)
    (delay : Option Span) : Session e.endpoints × List Event :=
  match s.call.selector.relocate aim with
  | .ok (selection, selector) =>
    let call := { s.call with selector, path := selection.path.getD s.call.path }
    let pause := (delay.map e.bounded).getD Span.zero
    ({ s with call, point := .pausing (clock.due pause) },
      .relocated s.call.endpoint selection.base call.relocations :: e.capping delay)
  | .error (.limitExceeded limit) => (s.toward s.call (.failed (.relocations limit)), [])
  | .error _ => (s.toward s.call (.failed .endpoints), [])

/-- Enters the phase that the call is about to enter. -/
def enter (e : Engine) (clock : Clock) (drawn : Nat) (s : Session e.endpoints) (phase : Phase) :
    Session e.endpoints × List Event :=
  let call := s.call
  let (next, events) : Session e.endpoints × List Event :=
    match phase with
    | .init => (s.toward call .attempting, [])
    | .attempting => attempt e clock drawn s
    | .relocating aim delay => relocate e clock s aim delay
    | .backingOff delay =>
      ({ s with point := .pausing (clock.due delay) }, [.backedOff delay call.retries])
    | .succeeded response =>
      ({ s with
          point := .finished (.ok ⟨response, call.attempts, call.relocations, call.endpoint,
            call.history⟩) },
        [.callSucceeded call.attempts call.relocations])
    | .failed failure =>
      ({ s with
          point := .finished (.error ⟨failure, call.attempts, call.endpoint, call.history⟩) },
        [.callFailed call.attempts call.retries call.relocations failure])
  (next, .stageEntered phase.stage :: events)

/-- Drops the call where it stands; a permit goes back with nothing learned. -/
def cancel (e : Engine) (clock : Clock) (s : Session e.endpoints) :
    Shared e.endpoints × List Event :=
  match s.point with
  | .exchanging _ _ _ =>
    let (limiter, events) := (s.limiter clock).release clock .ignored
    ((s.withLimiter limiter).shared, events)
  | _ => (s.shared, [])

/-- A measure that every step makes smaller, but for one that goes on waiting for a permit. -/
def distance (c : Call) : Point → Nat
  | .finished _ => 0
  | .entering (.succeeded _) | .entering (.failed _) => 8 * c.budget + 1
  | .entering (.relocating _ _) => 8 * c.budget + 2
  | .exchanging _ _ _ => 8 * c.budget + 3
  | .waiting _ _ => 8 * c.budget + 4
  | .entering .attempting => 8 * c.budget + 5
  | .entering .init | .pausing _ => 8 * c.budget + 6
  | .entering (.backingOff _) => 8 * c.budget + 7

end Session
end Failover
