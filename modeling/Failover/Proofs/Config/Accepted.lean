import Failover.Call.Engine
import Failover.Proofs.Config.Check
import Mathlib.Data.List.Basic

/-!
# One notion of valid settings

Settings are checked where a file is read and again where an engine is made, and the parts of an
engine check them once more in ways of their own. All of these agree: the first check decides what
comes of the settings, and where it finds no fault nothing is adjusted later.
-/

namespace Failover

/-! ## What the parts make of valid settings -/

namespace EndpointSet

/-- Texts that all spell URLs are read as a list of these. -/
theorem exists_mapM_readUrl {texts : List String} (h : ∀ text ∈ texts, IsEndpoint text) :
    ∃ urls, texts.mapM readUrl = .ok urls ∧ urls.map .ok = texts.map Url.parse := by
  induction texts with
  | nil => exact ⟨[], rfl, rfl⟩
  | cons text rest ih =>
    obtain ⟨u, parsed, _⟩ := h text List.mem_cons_self
    obtain ⟨urls, read, same⟩ := ih fun t ht => h t (List.mem_cons_of_mem text ht)
    have first : readUrl text = .ok u := by rw [readUrl, parsed]
    refine ⟨u :: urls, ?_, ?_⟩
    · rw [List.mapM_cons, first, read]
      rfl
    · rw [List.map_cons, List.map_cons, same, parsed]

theorem exists_parse {texts : List String} (nonempty : texts ≠ [])
    (h : ∀ text ∈ texts, IsEndpoint text) :
    ∃ set, parse texts = .ok set ∧ set.urls.map .ok = texts.map Url.parse := by
  obtain ⟨urls, read, same⟩ := exists_mapM_readUrl h
  have some' : urls ≠ [] := by
    rintro rfl
    exact nonempty (List.map_eq_nil_iff.mp same.symm)
  refine ⟨⟨urls, some'⟩, ?_, same⟩
  rw [parse, read]
  exact dif_neg some'

end EndpointSet

namespace LimiterSettings

variable {l : LimiterSettings}

/-- Valid bounds are those of the rule. -/
theorem IsValid.rule (h : l.IsValid) :
    LimitRule.ofSettings l =
      ⟨l.minLimit.toNat, l.maxLimit.toNat, l.alpha, l.beta, l.backoffRatio⟩ := by
  have least : max l.minLimit.toNat 1 = l.minLimit.toNat := Nat.max_eq_left h.least
  have ordered : l.minLimit.toNat ≤ l.maxLimit.toNat := Nat.le_trans h.initial h.greatest
  rw [LimitRule.ofSettings, least, Nat.max_eq_left ordered]

/-- A limiter with valid settings learns by them as they are written. -/
theorem IsValid.learning (h : l.IsValid) :
    Learning.ofSettings l =
      { rule := ⟨l.minLimit.toNat, l.maxLimit.toNat, l.alpha, l.beta, l.backoffRatio⟩
        windowNanos := (Span.ofMillis l.windowMs.toNat).wordNanos
        windowEvents := l.windowSamples.toNat } := by
  rw [Learning.ofSettings, h.rule, Nat.max_eq_left h.windowMs, Nat.max_eq_left h.windowSamples]

theorem IsValid.initialLimit (h : l.IsValid) :
    (LimitRule.ofSettings l).clamp l.initialLimit.toNat = l.initialLimit.toNat := by
  rw [h.rule]
  exact LimitRule.clamp_of_between h.initial h.greatest

end LimiterSettings

/-! ## Engines -/

/-- A limiter as settings describe it, before its first use. -/
structure Controller.StartsAs (c : Controller) (l : LimiterSettings) : Prop where
  mode : c.mode = l.mode
  limit : c.limit = l.initialLimit.toNat
  inFlight : c.inFlight = 0
  learning : c.learning = some
    { rule := ⟨l.minLimit.toNat, l.maxLimit.toNat, l.alpha, l.beta, l.backoffRatio⟩
      windowNanos := (Span.ofMillis l.windowMs.toNat).wordNanos
      windowEvents := l.windowSamples.toNat }
  deadline : c.deadline = (Span.ofMillis l.windowMs.toNat).wordNanos

/-- An engine that uses settings as they are written. -/
structure Engine.IsOf (e : Engine) (s : Settings) : Prop where
  service : e.service = s.service
  endpoints : e.endpoints.urls.map .ok = s.endpoints.map Url.parse
  backoff : e.backoff = .ofSettings s.retries
  maxRelocations : e.maxRelocations = s.relocation.maxRelocations.toNat
  attemptTimeout : e.attemptTimeout = .ofMillis s.timeouts.attemptMs.toNat
  maxRetryAfter : e.maxRetryAfter = .ofMillis s.retries.maxRetryAfterMs.toNat
  limiter : s.limiter.enabled = true → ∀ clock key,
    (e.fresh.limiters.obtain clock key).1.StartsAs s.limiter

/-- What comes of settings where a check finds these faults: something if there are none, otherwise
the faults. -/
structure DecidedBy {α : Type} (faults : List SettingsFault) (made : Except ConfigError α) :
    Prop where
  made_iff : (∃ a, made = .ok a) ↔ faults = []
  error_iff : ∀ e, made = .error e ↔ faults ≠ [] ∧ e = .faults faults

/-- Something is made behind a check, which passes on any faults it finds. -/
theorem DecidedBy.guarded {α : Type} {faults : List SettingsFault} {made : Except ConfigError α}
    (h : faults = [] → ∃ a, made = .ok a) :
    DecidedBy faults (match faults with
      | [] => made
      | found => .error (.faults found)) := by
  cases faults with
  | nil =>
    obtain ⟨a, rfl⟩ := h rfl
    exact ⟨by simp, by simp⟩
  | cons f rest => exact ⟨by simp, by simp [eq_comm]⟩

namespace Engine

variable {s : Settings}

/-- An engine can be made of valid settings, and it uses them as they are written. -/
theorem exists_ofSettings (h : s.IsValid) : ∃ e, ofSettings s = .ok e ∧ e.IsOf s := by
  obtain ⟨endpoints, parsed, same⟩ := EndpointSet.exists_parse h.nonempty h.endpoints
  rw [ofSettings, Settings.faults_eq_nil_iff.mpr h, parsed]
  refine ⟨_, rfl, rfl, same, rfl, rfl, rfl, rfl, ?_⟩
  intro enabled clock key
  show (Limiters.create s.limiter key clock).1.StartsAs s.limiter
  rw [Limiters.create, if_pos enabled]
  exact ⟨rfl, h.limiter.initialLimit, rfl, congrArg some h.limiter.learning,
    congrArg Learning.windowNanos h.limiter.learning⟩

theorem ofSettings_decided (s : Settings) : DecidedBy s.faults (ofSettings s) := by
  refine .guarded fun none => ?_
  have valid := Settings.faults_eq_nil_iff.mp none
  obtain ⟨endpoints, parsed, _⟩ := EndpointSet.exists_parse valid.nonempty valid.endpoints
  rw [parsed]
  exact ⟨_, rfl⟩

theorem ofPlainHttp_of_reachable (h : s.plainHttpFaults = []) : ofPlainHttp s = ofSettings s := by
  rw [ofPlainHttp, h]

/-- The endpoints that a transport for plain HTTP cannot reach are reported before all else. -/
theorem ofPlainHttp_decided (s : Settings) :
    DecidedBy (if s.plainHttpFaults = [] then s.faults else s.plainHttpFaults) (ofPlainHttp s) := by
  by_cases reachable : s.plainHttpFaults = []
  · rw [if_pos reachable, ofPlainHttp_of_reachable reachable]
    exact ofSettings_decided s
  · rw [if_neg reachable]
    exact .guarded fun none => absurd none reachable

/-- Whatever engine is made, over whichever transport, is made of valid settings as they are
written. -/
theorem isOf_of_made {e : Engine} (h : ofSettings s = .ok e ∨ ofPlainHttp s = .ok e) :
    e.IsOf s := by
  have made : ofSettings s = .ok e := by
    rcases h with made | made
    · exact made
    · have none := (ofPlainHttp_decided s).made_iff.mp ⟨e, made⟩
      split at none
      · rename_i reachable
        rwa [ofPlainHttp_of_reachable reachable] at made
      · rename_i some'
        exact absurd none some'
  have valid := Settings.faults_eq_nil_iff.mp ((ofSettings_decided s).made_iff.mp ⟨e, made⟩)
  obtain ⟨e', made', written⟩ := exists_ofSettings valid
  rw [made] at made'
  cases made'
  exact written

end Engine

/-! ## Texts -/

namespace Settings

theorem checked_decided (s : Settings) : DecidedBy s.faults s.checked := .guarded fun _ => ⟨s, rfl⟩

theorem checked_of_valid {s : Settings} (h : s.faults = []) : s.checked = .ok s := by
  rw [checked, h]

/-- What a text is read as behind the check: the settings it holds, as they are, if these have no
fault. -/
theorem ofCheckedText_eq_ok_iff {text : String} {s : Settings} :
    ofCheckedText text = .ok s ↔ ofText text = .ok s ∧ s.faults = [] := by
  rw [ofCheckedText]
  cases ofText text with
  | error e =>
    constructor
    · exact nofun
    · rintro ⟨⟨⟩, _⟩
  | ok held =>
    show held.checked = .ok s ↔ _
    constructor
    · intro read
      have valid := held.checked_decided.made_iff.mp ⟨s, read⟩
      rw [checked_of_valid valid] at read
      cases read
      exact ⟨rfl, valid⟩
    · rintro ⟨⟨⟩, valid⟩
      exact checked_of_valid valid

/-- The faults of the settings that a text holds are why it is not accepted, if it holds any
settings. -/
theorem ofCheckedText_eq_error_iff {text : String} {e : ConfigError} :
    ofCheckedText text = .error e ↔
      ofText text = .error e ∨ ∃ s, ofText text = .ok s ∧ s.faults ≠ [] ∧ e = .faults s.faults := by
  rw [ofCheckedText]
  cases ofText text with
  | error e' =>
    constructor
    · exact .inl
    · rintro (same | ⟨s, ⟨⟩, _⟩)
      exact same
  | ok held =>
    refine (held.checked_decided.error_iff e).trans ?_
    constructor
    · exact fun found => .inr ⟨held, rfl, found⟩
    · rintro (⟨⟨⟩⟩ | ⟨s, ⟨⟩, found⟩)
      exact found

end Settings

/-! ## All paths -/

/-- One check decides on every path. An engine over any transport is made of settings without fault
and of no others, and the endpoints are never refused behind the check. Over the built-in transport
the endpoints it cannot reach come first. A text is read as the settings it holds if these have no
fault. And every engine that is made uses its settings as they are written. -/
theorem accepted_as_written (s : Settings) (text : String) :
    DecidedBy s.faults (Engine.ofSettings s) ∧
    (∀ error, Engine.ofSettings s ≠ .error (.endpoints error)) ∧
    DecidedBy (if s.plainHttpFaults = [] then s.faults else s.plainHttpFaults)
      (Engine.ofPlainHttp s) ∧
    (Settings.ofCheckedText text = .ok s ↔ Settings.ofText text = .ok s ∧ s.faults = []) ∧
    (∀ e, Settings.ofCheckedText text = .error e ↔ Settings.ofText text = .error e ∨
      ∃ t, Settings.ofText text = .ok t ∧ t.faults ≠ [] ∧ e = .faults t.faults) ∧
    ∀ e, Engine.ofSettings s = .ok e ∨ Engine.ofPlainHttp s = .ok e → e.IsOf s := by
  have decided := Engine.ofSettings_decided s
  refine ⟨decided, ?_, Engine.ofPlainHttp_decided s, Settings.ofCheckedText_eq_ok_iff,
    fun e => Settings.ofCheckedText_eq_error_iff, fun e => Engine.isOf_of_made⟩
  intro error refused
  obtain ⟨_, other⟩ := (decided.error_iff _).mp refused
  cases other

/-- Two endpoints of which the built-in transport reaches one. -/
def mixedSettings : Settings := { endpoints := ["http://a/api", "https://b"] }

theorem plainHttpFaults_mixedSettings :
    mixedSettings.plainHttpFaults = [.tlsUnsupported "https://b"] := by
  have first : Settings.plainHttpFault "http://a/api" = [] := by decide +kernel
  have parsed : Url.parse "https://b" = .ok
      ⟨"https".toList, some ⟨[], none, .domain "b".toList, none⟩, .rooted [[]], none, none⟩ := by
    decide +kernel
  have second : Settings.plainHttpFault "https://b" = [.tlsUnsupported "https://b"] := by
    rw [Settings.plainHttpFault, parsed]
    rfl
  show Settings.plainHttpFault _ ++ (Settings.plainHttpFault _ ++ []) = _
  rw [first, second]
  rfl

/-- An engine of both endpoints, whose limiters start at the first limit, can be made over another
transport only. -/
theorem accepted_as_written_mixed :
    (∃ e, Engine.ofSettings mixedSettings = .ok e ∧ e.endpoints.size = 2 ∧
      ∀ clock key, (e.fresh.limiters.obtain clock key).1.limit = 10) ∧
    Engine.ofPlainHttp mixedSettings = .error (.faults [.tlsUnsupported "https://b"]) := by
  obtain ⟨decided, _, plain, _, _, written⟩ := accepted_as_written mixedSettings ""
  rw [plainHttpFaults_mixedSettings] at plain
  refine ⟨?_, (plain.error_iff _).mpr ⟨List.cons_ne_nil _ _, rfl⟩⟩
  obtain ⟨e, made⟩ := decided.made_iff.mpr (by decide +kernel)
  have used := written e (.inl made)
  refine ⟨e, made, ?_, fun clock key => (used.limiter rfl clock key).limit⟩
  have size := congrArg List.length used.endpoints
  simpa [EndpointSet.size, mixedSettings] using size

end Failover
