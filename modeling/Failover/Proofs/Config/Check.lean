import Failover.Config.Check

/-!
# Settings without fault

What it means, field by field, that a check finds no fault in settings.
-/

namespace Failover

/-- A text that spells a URL of a scheme that endpoints may have. -/
def IsEndpoint (text : String) : Prop :=
  ∃ u, Url.parse text = .ok u ∧ (u.scheme = "http".toList ∨ u.scheme = "https".toList)

/-- Settings of a limiter whose bounds are in order and whose windows end. -/
structure LimiterSettings.IsValid (l : LimiterSettings) : Prop where
  least : 1 ≤ l.minLimit.toNat
  initial : l.minLimit.toNat ≤ l.initialLimit.toNat
  greatest : l.initialLimit.toNat ≤ l.maxLimit.toNat
  ratio : 0.0 < l.backoffRatio ∧ l.backoffRatio < 1.0
  thresholds : ¬l.beta ≤ l.alpha
  windowMs : 1 ≤ l.windowMs.toNat
  windowSamples : 1 ≤ l.windowSamples.toNat

/-- Settings of which an engine can be made. -/
structure Settings.IsValid (s : Settings) : Prop where
  nonempty : s.endpoints ≠ []
  endpoints : ∀ text ∈ s.endpoints, IsEndpoint text
  limiter : s.limiter.IsValid
  backoff : s.retries.baseDelayMs ≤ s.retries.maxDelayMs
  attempt : s.timeouts.attemptMs ≠ 0
  connect : s.timeouts.connectMs ≠ 0

namespace Settings

theorem fault_eq_nil_iff {holds : Bool} {f : SettingsFault} :
    fault holds f = [] ↔ holds = false := by
  cases holds <;> simp [fault]

/-- A 64-bit word that is not zero is at least one. -/
theorem one_le_toNat_iff {n : UInt64} : 1 ≤ n.toNat ↔ n ≠ 0 := by
  rw [Nat.one_le_iff_ne_zero, ne_eq, ne_eq, ← UInt64.toNat_inj]
  rfl

theorem endpointFaults_eq_nil_iff {text : String} : endpointFaults text = [] ↔ IsEndpoint text := by
  rw [endpointFaults, IsEndpoint]
  cases Url.parse text with
  | error e => simp
  | ok u =>
    rw [fault_eq_nil_iff, Bool.and_eq_false_iff, bne_eq_false_iff_eq, bne_eq_false_iff_eq]
    simp

theorem limiterFaults_eq_nil_iff {l : LimiterSettings} : limiterFaults l = [] ↔ l.IsValid := by
  simp only [limiterFaults, List.append_eq_nil_iff, fault_eq_nil_iff, Bool.or_eq_false_iff,
    decide_eq_false_iff_not, UInt64.lt_iff_toNat_lt, Nat.not_lt, Bool.not_eq_false',
    Bool.and_eq_true, decide_eq_true_eq, beq_eq_false_iff_ne, ← one_le_toNat_iff]
  constructor
  · rintro ⟨⟨⟨⟨⟨least, initial⟩, greatest⟩, ratio⟩, thresholds⟩, windowMs, windowSamples⟩
    exact ⟨least, initial, greatest, ratio, thresholds, windowMs, windowSamples⟩
  · intro h
    exact ⟨⟨⟨⟨⟨h.least, h.initial⟩, h.greatest⟩, h.ratio⟩, h.thresholds⟩, h.windowMs,
      h.windowSamples⟩

/-- The check finds a fault in all settings that are not valid, and in no others. -/
theorem faults_eq_nil_iff {s : Settings} : s.faults = [] ↔ s.IsValid := by
  simp only [faults, List.append_eq_nil_iff, fault_eq_nil_iff, List.isEmpty_eq_false_iff,
    List.flatMap_eq_nil_iff, endpointFaults_eq_nil_iff, limiterFaults_eq_nil_iff,
    decide_eq_false_iff_not, UInt64.not_lt, beq_eq_false_iff_ne]
  constructor
  · rintro ⟨⟨⟨⟨⟨nonempty, endpoints⟩, limiter⟩, backoff⟩, attempt⟩, connect⟩
    exact ⟨nonempty, endpoints, limiter, backoff, attempt, connect⟩
  · intro h
    exact ⟨⟨⟨⟨⟨h.nonempty, h.endpoints⟩, h.limiter⟩, h.backoff⟩, h.attempt⟩, h.connect⟩

end Settings
end Failover
