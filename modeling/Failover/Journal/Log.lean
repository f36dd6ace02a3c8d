import Failover.Journal.Event

/-! The log of an engine: what of its journal is told to a reader, and in which words. -/
namespace Failover

inductive LogLevel where
  | trace
  | debug
  | info
  | warn
  deriving DecidableEq, Repr

def LogLevel.name : LogLevel → String
  | .trace => "TRACE"
  | .debug => "DEBUG"
  | .info => "INFO"
  | .warn => "WARN"

/-- The value of a field of a log line. -/
inductive LogValue where
  | text (value : String)
  | number (value : Nat)
  | flag (value : Bool)
  deriving DecidableEq, Repr

/-- A log line: a message, or a span that the lines of one call belong to. -/
structure LogLine where
  level : LogLevel
  span : Option String
  fields : List (String × LogValue)
  deriving DecidableEq, Repr

namespace LogLine

/-- A line with a message and fields. -/
def message (level : LogLevel) (text : String) (fields : List (String × LogValue)) : LogLine :=
  ⟨level, none, fields ++ [("message", .text text)]⟩

/-- What stands for the name of a call. -/
def callId : String × LogValue := ("call_id", .text "-")

/-- The status of an attempt: `Some` with the code, or `None`. -/
def statusText : Option Status → String
  | some s => "Some(" ++ Numeral.decimal s.code ++ ")"
  | none => "None"

/-- The fields that tell how an attempt ended. -/
def ofRecord (r : AttemptRecord) : List (String × LogValue) :=
  [("attempt", .number r.attempt), ("endpoint", .text r.endpoint),
    ("outcome", .text r.verdict.label), ("status", .text (statusText r.status)),
    ("latency_ms", .number r.latencyMs)]

end LogLine

namespace Event

/-- The line that an event writes, if it writes one. -/
def log? : Event → Option LogLine
  | .engineReady service endpoints limited maxRetries =>
    some (.message .info "Call engine initialized" [("service", .text service),
      ("endpoints", .number endpoints), ("limiter", .flag limited),
      ("max_retries", .number maxRetries)])
  | .limiterCreated limiter enabled =>
    some (.message .debug "Creating concurrency limiter"
      [("limiter", .text limiter), ("enabled", .flag enabled)])
  | .limitChanged limiter before after window =>
    some (.message .debug "Concurrency limit updated" [("limiter", .text limiter),
      ("old_limit", .number before), ("new_limit", .number after),
      ("window", .text window.text)])
  | .permitAwaited limiter limit =>
    some (.message .trace "Waiting for permit"
      [("limiter", .text limiter), ("limit", .number limit)])
  | .callOpened service method path =>
    some ⟨.info, some "call", [LogLine.callId, ("service", .text service),
      ("method", .text method), ("path", .text path)]⟩
  | .stageEntered stage => some (.message .trace "Call state" [("state", .text stage.name)])
  | .attemptRefused attempt endpoint error =>
    some (.message .warn "Admission refused" [("attempt", .number attempt),
      ("endpoint", .text endpoint.text), ("error", .text error.message)])
  | .attemptStarted .logging _ attempt url _ =>
    some (.message .debug "Attempt started"
      [LogLine.callId, ("attempt", .number attempt), ("url", .text url.text)])
  | .attemptCompleted record =>
    some (.message .debug "Attempt completed" (LogLine.ofRecord record))
  | .attemptFinished .logging _ record =>
    some (.message .debug "Attempt finished" (LogLine.ofRecord record))
  | .waitCapped requested ceiling =>
    some (.message .debug "Capping Retry-After"
      [("requested", .text requested.text), ("ceiling", .text ceiling.text)])
  | .backedOff delay retries =>
    some (.message .debug "Backing off" [("delay", .text delay.text), ("retries", .number retries)])
  | .relocated before after relocations =>
    some (.message .info "Relocating call" [("from", .text before.text), ("to", .text after.text),
      ("relocations", .number relocations)])
  | .callSucceeded attempts relocations =>
    some (.message .debug "Call succeeded"
      [("attempts", .number attempts), ("relocations", .number relocations)])
  | .callFailed attempts retries relocations failure =>
    some (.message .warn "Call failed" [("attempts", .number attempts),
      ("retries", .number retries), ("relocations", .number relocations),
      ("error", .text failure.message)])
  | _ => none

end Event

/-- Which lines of its own a program with this level shows unless told otherwise. -/
def defaultFilter (level : String) : String := "resilient_call=" ++ level

end Failover
