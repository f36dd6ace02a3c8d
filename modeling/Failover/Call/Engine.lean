import Failover.Backoff
import Failover.Config.Load
import Failover.Endpoint.Selector
import Failover.Limiter.Registry

/-! The engine that calls of one service share. Its fixed part says how calls behave; what calls
leave for later ones is the endpoint to start from and the limiters. -/
namespace Failover

/-- What all calls of an engine have in common. -/
structure Engine where
  service : String
  endpoints : EndpointSet
  backoff : Backoff
  maxRelocations : Nat
  attemptTimeout : Span
  maxRetryAfter : Span
  limiter : LimiterSettings
  observer : Observer

/-- What calls over one set of endpoints leave behind for each other. -/
structure Shared (set : EndpointSet) where
  preferred : Preferred set
  limiters : Limiters

namespace Engine

/-- The engine of these settings, if they have no fault. Nobody observes its attempts. -/
def ofSettings (s : Settings) : Except ConfigError Engine :=
  match s.faults with
  | [] =>
    match EndpointSet.parse s.endpoints with
    | .error e => .error (.endpoints e)
    | .ok endpoints => .ok {
        service := s.service
        endpoints
        backoff := .ofSettings s.retries
        maxRelocations := s.relocation.maxRelocations.toNat
        attemptTimeout := .ofMillis s.timeouts.attemptMs.toNat
        maxRetryAfter := .ofMillis s.retries.maxRetryAfterMs.toNat
        limiter := s.limiter
        observer := .silent }
  | faults => .error (.faults faults)

/-- The engine of these settings over the built-in transport, which cannot reach every endpoint. -/
def ofPlainHttp (s : Settings) : Except ConfigError Engine :=
  match s.plainHttpFaults with
  | [] => ofSettings s
  | faults => .error (.faults faults)

/-- What happens when an engine is made of settings. -/
def announce (e : Engine) (s : Settings) : Event :=
  .engineReady e.service e.endpoints.size e.limiter.enabled s.retries.maxRetries.toNat

/-- What calls of the engine share before the first of them. -/
def fresh (e : Engine) : Shared e.endpoints := ⟨.first e.endpoints, .ofSettings e.limiter⟩

/-- A wait that a server asks for, cut at the engine's ceiling. -/
def bounded (e : Engine) (requested : Span) : Span := .least requested e.maxRetryAfter

/-- The event of a wait that is cut. -/
def capping (e : Engine) : Option Span → List Event
  | some requested =>
    if e.maxRetryAfter.nanos < requested.nanos then [.waitCapped requested e.maxRetryAfter] else []
  | none => []

end Engine
end Failover
