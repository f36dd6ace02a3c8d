import Failover.Config.Settings
import Failover.Text.Decimal
import Failover.Url.Parser

/-! What settings have to satisfy before an engine is made of them. A check finds every fault, in a
fixed order. -/
namespace Failover

/-- A fault of settings. -/
inductive SettingsFault where
  | noEndpoints
  | invalidEndpoint (endpoint : String)
  | unsupportedScheme (endpoint : String)
  | limiterBounds (min initial max : UInt64)
  | backoffRatio (ratio : Float)
  | queueThresholds (alpha beta : Float)
  | emptyWindow
  | backoffBounds (baseMs maxMs : UInt64)
  | zeroTimeout (field : String)
  | tlsUnsupported (endpoint : String)

namespace SettingsFault

def ofWord (n : UInt64) : String := Numeral.decimal n.toNat

def message : SettingsFault → String
  | .noEndpoints => "at least one endpoint is required"
  | .invalidEndpoint endpoint => "endpoint '" ++ endpoint ++ "' is not a valid URL"
  | .unsupportedScheme endpoint => "endpoint '" ++ endpoint ++ "' must use http or https"
  | .limiterBounds min initial max =>
    "limiter bounds must satisfy 1 <= min (" ++ ofWord min ++ ") <= initial (" ++ ofWord initial ++
      ") <= max (" ++ ofWord max ++ ")"
  | .backoffRatio ratio => "limiter backoff_ratio " ++ Binary64.text ratio ++ " must be in (0, 1)"
  | .queueThresholds alpha beta =>
    "limiter alpha (" ++ Binary64.text alpha ++ ") must be below beta (" ++
      Binary64.text beta ++ ")"
  | .emptyWindow => "limiter window must be non-zero"
  | .backoffBounds baseMs maxMs =>
    "retry base delay " ++ ofWord baseMs ++ "ms exceeds max delay " ++ ofWord maxMs ++ "ms"
  | .zeroTimeout field => "timeout '" ++ field ++ "' must be greater than zero"
  | .tlsUnsupported endpoint =>
    "endpoint '" ++ endpoint ++ "' uses TLS, which the built-in HTTP transport does not speak"

end SettingsFault

namespace Settings

/-- A fault that holds under a condition. -/
def fault (holds : Bool) (f : SettingsFault) : List SettingsFault := if holds then [f] else []

/-- The fault of one endpoint. -/
def endpointFaults (endpoint : String) : List SettingsFault :=
  match Url.parse endpoint with
  | .error _ => [.invalidEndpoint endpoint]
  | .ok u =>
    fault (u.scheme != "http".toList && u.scheme != "https".toList) (.unsupportedScheme endpoint)

def limiterFaults (l : LimiterSettings) : List SettingsFault :=
  fault (l.minLimit < 1 || l.initialLimit < l.minLimit || l.maxLimit < l.initialLimit)
      (.limiterBounds l.minLimit l.initialLimit l.maxLimit) ++
    fault (!(0.0 < l.backoffRatio && l.backoffRatio < 1.0)) (.backoffRatio l.backoffRatio) ++
    fault (l.beta ≤ l.alpha) (.queueThresholds l.alpha l.beta) ++
    fault (l.windowMs == 0 || l.windowSamples == 0) .emptyWindow

/-- Every fault of the settings. -/
def faults (s : Settings) : List SettingsFault :=
  fault s.endpoints.isEmpty .noEndpoints ++
    s.endpoints.flatMap endpointFaults ++
    limiterFaults s.limiter ++
    fault (s.retries.maxDelayMs < s.retries.baseDelayMs)
      (.backoffBounds s.retries.baseDelayMs s.retries.maxDelayMs) ++
    fault (s.timeouts.attemptMs == 0) (.zeroTimeout "attempt_ms") ++
    fault (s.timeouts.connectMs == 0) (.zeroTimeout "connect_ms")

/-- The fault of one endpoint for a transport that speaks plain HTTP only. -/
def plainHttpFault (endpoint : String) : List SettingsFault :=
  match Url.parse endpoint with
  | .ok u => fault (u.scheme == "https".toList) (.tlsUnsupported endpoint)
  | .error _ => []

/-- Every endpoint that a transport for plain HTTP cannot reach. -/
def plainHttpFaults (s : Settings) : List SettingsFault := s.endpoints.flatMap plainHttpFault

end Settings
end Failover
