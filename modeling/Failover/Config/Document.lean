import Failover.Config.Settings
import Failover.Text.Word

/-! Settings as a document of plain values. A field that is missing takes its default, a field that
nobody knows is passed over, and a value of the wrong kind or out of range is refused. -/
namespace Failover

/-- A plain value, as a file or a message holds it. -/
inductive Document where
  | null
  | flag (value : Bool)
  | integer (value : Int)
  | real (value : Float)
  | text (value : String)
  | date
  | list (items : List Document)
  | table (entries : List (String × Document))

/-- What differs between the formats that documents are written in: whether a list may have more
items than fields it stands for, and which values stand for a choice without content. -/
structure DocumentStyle where
  allowsSurplus : Bool
  isUnit : Document → Bool

namespace DocumentStyle

/-- Messages: no surplus, and `null` for no content. -/
def message : DocumentStyle :=
  { allowsSurplus := false
    isUnit := fun | .null => true | _ => false }

/-- Files: items beyond the last field are passed over, and an empty list or table is no content. -/
def file : DocumentStyle :=
  { allowsSurplus := true
    isUnit := fun | .list [] | .table [] => true | _ => false }

end DocumentStyle

namespace Document

/-- The fields of a record: by name, or by place. -/
inductive Fields where
  | named (entries : List (String × Document))
  | placed (items : List Document)

/-- The fields of a record of `count` fields. A date stands for a record of which nothing is
known. -/
def fields? (style : DocumentStyle) (count : Nat) : Document → Option Fields
  | .table entries => some (.named entries)
  | .date => some (.named [])
  | .list items =>
    if style.allowsSurplus || items.length ≤ count then some (.placed items) else none
  | _ => none

/-- A field of a record by place and name, read with `read?`, or `absent` if it is missing. -/
def Fields.get {α : Type} (fs : Fields) (place : Nat) (name : String)
    (read? : Document → Option α) (absent : α) : Option α :=
  let value? := match fs with
    | .named entries => entries.lookup name
    | .placed items => items[place]?
  match value? with
  | some value => read? value
  | none => some absent

def flag? : Document → Option Bool
  | .flag value => some value
  | _ => none

def text? : Document → Option String
  | .text value => some value
  | _ => none

def texts? : Document → Option (List String)
  | .list items => items.mapM text?
  | _ => none

/-- A whole number from zero to `limit`. -/
def natural? (limit : Nat) : Document → Option Nat
  | .integer value => if 0 ≤ value ∧ value ≤ limit then some value.toNat else none
  | _ => none

def word32? (d : Document) : Option UInt32 := (natural? 4294967295 d).map UInt32.ofNat

def word64? (d : Document) : Option UInt64 := (natural? Word64.largest d).map UInt64.ofNat

/-- A number; a whole one is rounded to the nearest double. -/
def real? : Document → Option Float
  | .real value => some value
  | .integer value => some (
    let magnitude := Word64.toFloat value.natAbs
    if value < 0 then -magnitude else magnitude)
  | _ => none

def modeNamed? (name : String) : Option AdmissionMode :=
  [AdmissionMode.blocking, .rejecting].find? (·.name == name)

/-- A mode by its name, which may also be the one key of a table without content. -/
def mode? (style : DocumentStyle) : Document → Option AdmissionMode
  | .text name => modeNamed? name
  | .table [(name, content)] => if style.isUnit content then modeNamed? name else none
  | _ => none

def retries? (style : DocumentStyle) (d : Document) : Option RetrySettings := do
  let fs ← fields? style 6 d
  let base : RetrySettings := {}
  some {
    enabled := ← fs.get 0 "enabled" flag? base.enabled
    maxRetries := ← fs.get 1 "max_retries" word32? base.maxRetries
    baseDelayMs := ← fs.get 2 "base_delay_ms" word64? base.baseDelayMs
    maxDelayMs := ← fs.get 3 "max_delay_ms" word64? base.maxDelayMs
    jitter := ← fs.get 4 "jitter" flag? base.jitter
    maxRetryAfterMs := ← fs.get 5 "max_retry_after_ms" word64? base.maxRetryAfterMs }

def relocation? (style : DocumentStyle) (d : Document) : Option RelocationSettings := do
  let fs ← fields? style 1 d
  let base : RelocationSettings := {}
  some { maxRelocations := ← fs.get 0 "max_relocations" word32? base.maxRelocations }

def limiter? (style : DocumentStyle) (d : Document) : Option LimiterSettings := do
  let fs ← fields? style 10 d
  let base : LimiterSettings := {}
  some {
    enabled := ← fs.get 0 "enabled" flag? base.enabled
    mode := ← fs.get 1 "mode" (mode? style) base.mode
    initialLimit := ← fs.get 2 "initial_limit" word64? base.initialLimit
    minLimit := ← fs.get 3 "min_limit" word64? base.minLimit
    maxLimit := ← fs.get 4 "max_limit" word64? base.maxLimit
    windowMs := ← fs.get 5 "window_ms" word64? base.windowMs
    windowSamples := ← fs.get 6 "window_samples" word64? base.windowSamples
    alpha := ← fs.get 7 "alpha" real? base.alpha
    beta := ← fs.get 8 "beta" real? base.beta
    backoffRatio := ← fs.get 9 "backoff_ratio" real? base.backoffRatio }

def timeouts? (style : DocumentStyle) (d : Document) : Option TimeoutSettings := do
  let fs ← fields? style 2 d
  let base : TimeoutSettings := {}
  some {
    connectMs := ← fs.get 0 "connect_ms" word64? base.connectMs
    attemptMs := ← fs.get 1 "attempt_ms" word64? base.attemptMs }

def observability? (style : DocumentStyle) (d : Document) : Option ObservabilitySettings := do
  let fs ← fields? style 3 d
  let base : ObservabilitySettings := {}
  some {
    logLevel := ← fs.get 0 "log_level" text? base.logLevel
    metricsEnabled := ← fs.get 1 "metrics_enabled" flag? base.metricsEnabled
    metricsAddress := ← fs.get 2 "metrics_address" text? base.metricsAddress }

/-- The settings that a document holds. -/
def settings? (style : DocumentStyle) (d : Document) : Option Settings := do
  let fs ← fields? style 7 d
  let base : Settings := {}
  some {
    service := ← fs.get 0 "service" text? base.service
    endpoints := ← fs.get 1 "endpoints" texts? base.endpoints
    retries := ← fs.get 2 "retries" (retries? style) base.retries
    relocation := ← fs.get 3 "relocation" (relocation? style) base.relocation
    limiter := ← fs.get 4 "limiter" (limiter? style) base.limiter
    timeouts := ← fs.get 5 "timeouts" (timeouts? style) base.timeouts
    observability := ← fs.get 6 "observability" (observability? style) base.observability }

end Document
end Failover
