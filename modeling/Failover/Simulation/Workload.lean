import Failover.Call.Run
import Failover.Simulation.Script

/-! Calls of several engines over a scripted network, on one thread and in virtual time. As long
as a call can go on, all unfinished calls are visited in order; when none can, the clock moves on
to the next timer. -/
namespace Failover

/-- An engine with the state that its calls share; the limiters may be those of another engine. -/
structure Service where
  engine : Engine
  preferred : Preferred engine.endpoints
  registry : Nat

/-- A permit held from outside of any call. -/
structure HeldPermit where
  registry : Nat
  key : String
  granted : Nat

/-- Everything there is. The journal holds what happened, last first, with its moment. -/
structure World where
  clock : Clock
  script : Script
  services : List Service
  registries : List Limiters
  held : List (Option HeldPermit)
  journal : List (Nat × Event)

/-- A reply under way: what comes and when, if anything does, and when it is given up. -/
structure PendingReply where
  arrival : Option (Nat × Except TransportError Response)
  deadline : Nat

/-- How a call of a workload ended, and when; one that can never go on is left. -/
inductive TaskEnd where
  | done (result : CallResult) (moment : Nat)
  | cancelled (moment : Nat)
  | left

/-- How far a call of a workload is. -/
inductive TaskState where
  | starting (moment : Nat)
  | running (call : Call) (point : Point) (reply : Option PendingReply) (cancelAt : Option Nat)
  | ended (how : TaskEnd)

/-- A call of a workload. -/
structure Task where
  service : Nat
  options : CallOptions
  cancelMs : Option Nat
  state : TaskState

namespace World

def note (w : World) (events : List Event) : World :=
  { w with journal := (events.map (w.clock.elapsed, ·)).reverse ++ w.journal }

def limitersAt (w : World) (registry : Nat) : Limiters := w.registries.getD registry ⟨{}, []⟩

def withLimiters (w : World) (registry : Nat) (ls : Limiters) : World :=
  { w with registries := w.registries.set registry ls }

/-- What the calls of a service share. -/
def shared (w : World) (s : Service) : Shared s.engine.endpoints :=
  ⟨s.preferred, w.limitersAt s.registry⟩

/-- The world after the calls of service `i` left this behind. -/
def leave (w : World) (i : Nat) (s : Service) (shared : Shared s.engine.endpoints) : World :=
  { w.withLimiters s.registry shared.limiters with
    services := w.services.set i { s with preferred := shared.preferred } }

end World

/-- A session on its way through a scripted network, with what happened on it. -/
structure Travel (set : EndpointSet) where
  session : Session set
  reply : Option PendingReply
  script : Script
  events : List Event

namespace Travel

/-- One step at a moment, or nothing if the call has to wait. -/
def step? (e : Engine) (clock : Clock) (t : Travel e.endpoints) : Option (Travel e.endpoints) :=
  let take (next : Session e.endpoints × List Event) : Travel e.endpoints :=
    { t with session := next.1, reply := none, events := t.events ++ next.2 }
  let sent (t : Travel e.endpoints) : Travel e.endpoints :=
    match t.session.point with
    | .exchanging _ _ request =>
      let (reply, script) := t.script.play (String.ofList request.uri.authority)
      { t with
        script
        reply := some {
          arrival := reply.result.map (clock.due (.ofMillis reply.delayMs), ·)
          deadline := clock.due e.attemptTimeout } }
    | _ => t
  match t.session.point with
  | .entering phase => some (sent (take (Session.enter e clock 0 t.session phase)))
  | .waiting url signals =>
    if (t.session.limiter clock).signals = signals then none
    else some (sent (take (Session.seekPermit e clock 0 t.session url)))
  | .exchanging url started _ =>
    match t.reply with
    | none => none
    | some reply =>
      match reply.arrival with
      | some (moment, result) =>
        if moment ≤ clock.elapsed then
          some (take (Session.settle e clock 0 t.session url started result))
        else if reply.deadline ≤ clock.elapsed then
          some (take (Session.settle e clock 0 t.session url started
            (.error (.timeout e.attemptTimeout))))
        else none
      | none =>
        if reply.deadline ≤ clock.elapsed then
          some (take (Session.settle e clock 0 t.session url started
            (.error (.timeout e.attemptTimeout))))
        else none
  | .pausing moment =>
    if moment ≤ clock.elapsed then
      some { t with session := { t.session with point := .entering .attempting } }
    else none
  | .finished _ => none

/-- Goes on until the call has to wait, at most so many steps. -/
def proceed (e : Engine) (clock : Clock) : Nat → Travel e.endpoints → Travel e.endpoints
  | 0, t => t
  | fuel + 1, t =>
    match step? e clock t with
    | some t => proceed e clock fuel t
    | none => t

/-- Goes on until the call has to wait; every step but the last brings it nearer to its end. -/
def run (e : Engine) (clock : Clock) (t : Travel e.endpoints) : Travel e.endpoints :=
  proceed e clock (Session.distance t.session.call t.session.point + 2) t

end Travel

namespace Task

/-- The moments at which a task can go on although nothing else happens. -/
def timers (t : Task) : List Nat :=
  match t.state with
  | .starting moment => [moment]
  | .running _ point reply cancelAt =>
    let own := match point, reply with
      | .pausing moment, _ => [moment]
      | .exchanging _ _ _, some r => r.deadline :: (r.arrival.map (·.1)).toList
      | _, _ => []
    own ++ cancelAt.toList
  | .ended _ => []

def isEnded (t : Task) : Bool :=
  match t.state with
  | .ended _ => true
  | _ => false

/-- Whether a task can go on now: a timer is due, or its limiter has woken it. -/
def isReady (w : World) (t : Task) : Bool :=
  t.timers.any (· ≤ w.clock.elapsed) ||
    match t.state, w.services[t.service]? with
    | .running call (.waiting _ signals) _ _, some s =>
      (((w.limitersAt s.registry).obtain w.clock call.key).1).signals != signals
    | _, _ => false

/-- The task and the world after a journey that began with these: the call is at its end, is
cancelled, or waits. -/
def settleDown (w : World) (t : Task) (s : Service) (cancelAt : Option Nat)
    (travel : Travel s.engine.endpoints) : World × Task :=
  let w := ({ w with script := travel.script }.note travel.events)
  match travel.session.point with
  | .finished result =>
    (w.leave t.service s travel.session.shared,
      { t with state := .ended (.done result w.clock.millis) })
  | point =>
    if cancelAt.any (· ≤ w.clock.elapsed) then
      let (shared, events) := Session.cancel s.engine w.clock travel.session
      ((w.leave t.service s shared).note events,
        { t with state := .ended (.cancelled w.clock.millis) })
    else
      (w.leave t.service s travel.session.shared,
        { t with state := .running travel.session.call point travel.reply cancelAt })

/-- Visits a task: it goes on as far as it can. -/
def visit (w : World) (t : Task) : World × Task :=
  match w.services[t.service]? with
  | none => (w, { t with state := .ended .left })
  | some s =>
    match t.state with
    | .ended _ => (w, t)
    | .starting moment =>
      if moment ≤ w.clock.elapsed then
        let (session, events) := Session.start s.engine w.clock (w.shared s) t.options
        let travel := Travel.run s.engine w.clock ⟨session, none, w.script, events⟩
        settleDown w t s (t.cancelMs.map fun ms => w.clock.due (.ofMillis ms)) travel
      else (w, t)
    | .running call point reply cancelAt =>
      let session : Session s.engine.endpoints := ⟨w.shared s, call, point⟩
      settleDown w t s cancelAt (Travel.run s.engine w.clock ⟨session, reply, w.script, []⟩)

/-- How many visits can bring a task forward. -/
def patience (w : World) (t : Task) : Nat :=
  match w.services[t.service]? with
  | some s => 8 * (s.engine.backoff.slots + s.engine.maxRelocations) + 16
  | none => 1

end Task

namespace World

/-- Visits all tasks in order. -/
def visitAll (w : World) : List Task → World × List Task
  | [] => (w, [])
  | t :: rest =>
    let (w, t) := t.visit w
    let (w, rest) := visitAll w rest
    (w, t :: rest)

/-- The next moment at which a task can go on. -/
def nextTimer? (tasks : List Task) : Option Nat := (tasks.flatMap Task.timers).min?

/-- Visits the tasks as long as one can go on, and moves the clock when none can, at most so many
times. -/
def carryOut : Nat → World → List Task → World × List Task
  | 0, w, tasks => (w, tasks)
  | fuel + 1, w, tasks =>
    if tasks.any (·.isReady w) then
      let (w, tasks) := w.visitAll tasks
      carryOut fuel w tasks
    else
      match nextTimer? tasks with
      | some moment => carryOut fuel { w with clock := w.clock.moveTo moment } tasks
      | none => (w, tasks)

/-- What a workload asks for: a call of a service, its start and its cancellation. -/
structure Order where
  service : Nat
  options : CallOptions
  startMs : Nat
  cancelMs : Option Nat

/-- Carries out calls side by side until all have ended. -/
def execute (w : World) (orders : List Order) : World × List TaskEnd :=
  let tasks := orders.map fun o =>
    ({ service := o.service, options := o.options, cancelMs := o.cancelMs,
       state := .starting (w.clock.due (.ofMillis o.startMs)) } : Task)
  let fuel := 4 * (tasks.foldl (fun n t => n + t.patience w) 0) + 4
  let (w, tasks) := carryOut fuel w tasks
  (w, tasks.map fun t => match t.state with
    | .ended how => how
    | _ => .left)

/-- Lets time pass. -/
def sleep (w : World) (ms : Nat) : World := { w with clock := w.clock.advance (.ofMillis ms) }

/-- The limiter of a service for a key, made if it is new. -/
def look (w : World) (s : Service) (key : String) : World × Controller :=
  let (c, events) := (w.limitersAt s.registry).obtain w.clock key
  ((w.withLimiters s.registry ((w.limitersAt s.registry).put key c)).note events, c)

/-- Takes a permit and holds it; its number, if there was one. -/
def hold (w : World) (s : Service) (key : String) : World × Option Nat :=
  let (w, c) := w.look s key
  match c.tryAcquire with
  | none => (w, none)
  | some (c, events) =>
    let w := w.withLimiters s.registry ((w.limitersAt s.registry).put key c)
    let permit : HeldPermit := ⟨s.registry, key, w.clock.elapsed⟩
    ({ w with held := w.held ++ [some permit] }.note events, some w.held.length)

/-- How a holder gives a permit back, told apart from what the limiter learns. -/
def completionOf (how : String) (held : Span) : Completion :=
  if how = "success" then .success held else if how = "dropped" then .dropped else .ignored

/-- Gives a held permit back; a permit that is not held is left alone. -/
def unhold (w : World) (index : Nat) (how : String) : World :=
  match w.held[index]?.join with
  | none => w
  | some permit =>
    let ls := w.limitersAt permit.registry
    let (c, events) := (ls.obtain w.clock permit.key).1.release w.clock
      (completionOf how (w.clock.since permit.granted))
    { w.withLimiters permit.registry (ls.put permit.key c) with
      held := w.held.set index none }.note events

/-- What happened between two worlds, first thing first. -/
def between (before after : World) : List (Nat × Event) :=
  (after.journal.take (after.journal.length - before.journal.length)).reverse

/-- Remembers an endpoint of a service as the one to start from. -/
def prefer (w : World) (i : Nat) (s : Service) (index : Nat) : World :=
  { w with services := w.services.set i { s with preferred := s.preferred.mark index } }

end World
end Failover
