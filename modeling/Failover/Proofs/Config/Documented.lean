import Failover.Config.Load
import Failover.Proofs.Config.Check

/-!
# Settings as they are documented

The check refuses every setting that the documentation excludes, with one exception. Of the two
thresholds of the queue the first is to be below the second, and what is refused is that it is at or
above it. Floats leave a case between these: a threshold that is not a number is on neither side of
anything.
-/

namespace Failover

/-! ## The order of floats -/

namespace Binary64

open Float.Model

/-- Swapped numbers compare the other way round. -/
theorem compare_swap (x y : UnpackedFloat) : y.compare x = (x.compare y).map Ordering.swap := by
  have parts : ∀ (m n : Nat) (i j : Int),
      (compare j i).then (compare n m) = ((compare i j).then (compare m n)).swap := by
    intro m n i j
    rw [Ordering.swap_then, Int.compare_swap, Nat.compare_swap]
  -- only two numbers of the same sign are compared by exponent and digits
  rcases x with ⟨_ | _⟩ | _ | ⟨_ | _⟩ | ⟨_ | _, m, i, _⟩ <;>
    rcases y with ⟨_ | _⟩ | _ | ⟨_ | _⟩ | ⟨_ | _, n, j, _⟩ <;>
      first
        | rfl
        | exact congrArg some (parts m n i j)
        | exact congrArg (some ∘ Ordering.swap) (parts m n i j)

/-- Two floats compare unless one of them is not a number. -/
theorem compare_eq_none_iff (x y : UnpackedFloat) :
    x.compare y = none ↔ x.isNaN = true ∨ y.isNaN = true := by
  rcases x with ⟨_ | _⟩ | _ | ⟨_ | _⟩ | ⟨_ | _, m, i, _⟩ <;>
    rcases y with ⟨_ | _⟩ | _ | ⟨_ | _⟩ | ⟨_ | _, n, j, _⟩ <;>
      first
        | exact iff_of_true rfl (.inl rfl)
        | exact iff_of_true rfl (.inr rfl)
        | exact iff_of_false (Option.some_ne_none _)
            (not_or_intro Bool.noConfusion Bool.noConfusion)

variable {a b : Float}

theorem lt_iff : a < b ↔ a.toModel.unpack.compare b.toModel.unpack = some .lt := by
  show decide (a.toModel < b.toModel) = true ↔ _
  rw [decide_eq_true_eq]
  show (_ == _) = true ↔ _
  rw [beq_iff_eq]

theorem le_iff : a ≤ b ↔ (a.toModel.unpack.compare b.toModel.unpack).any (·.isLE) = true := by
  show decide (a.toModel ≤ b.toModel) = true ↔ _
  rw [decide_eq_true_eq]
  rfl

/-- One float is not below another exactly if it is above it, or one of them is not a number. -/
theorem not_le_iff : ¬b ≤ a ↔ a < b ∨ a.isNaN = true ∨ b.isNaN = true := by
  have unordered : a.isNaN = true ∨ b.isNaN = true ↔
      a.toModel.unpack.compare b.toModel.unpack = none := (compare_eq_none_iff _ _).symm
  rw [unordered, lt_iff, le_iff, compare_swap a.toModel.unpack]
  rcases a.toModel.unpack.compare b.toModel.unpack with _ | _ | _ | _ <;> decide

/-- Floats one of which is below the other are numbers. -/
theorem isNaN_of_lt (h : a < b) : a.isNaN = false ∧ b.isNaN = false := by
  have ordered : ¬(a.isNaN = true ∨ b.isNaN = true) := by
    intro unordered
    have none := (compare_eq_none_iff a.toModel.unpack b.toModel.unpack).mpr unordered
    rw [lt_iff, none] at h
    cases h
  simpa using ordered

end Binary64

/-! ## What is documented -/

/-- Settings that are as documented in everything but the thresholds of the queue. -/
structure Settings.IsUsable (s : Settings) : Prop where
  nonempty : s.endpoints ≠ []
  endpoints : ∀ text ∈ s.endpoints, IsEndpoint text
  limits : 1 ≤ s.limiter.minLimit ∧ s.limiter.minLimit ≤ s.limiter.initialLimit ∧
    s.limiter.initialLimit ≤ s.limiter.maxLimit
  ratio : 0.0 < s.limiter.backoffRatio ∧ s.limiter.backoffRatio < 1.0
  window : s.limiter.windowMs ≠ 0 ∧ s.limiter.windowSamples ≠ 0
  backoff : s.retries.baseDelayMs ≤ s.retries.maxDelayMs
  timeouts : s.timeouts.attemptMs ≠ 0 ∧ s.timeouts.connectMs ≠ 0

/-- Settings that are as documented. -/
structure Settings.IsDocumented (s : Settings) : Prop extends s.IsUsable where
  thresholds : s.limiter.alpha < s.limiter.beta

/-- A threshold of the queue that is not a number. -/
def LimiterSettings.HasNaN (l : LimiterSettings) : Prop :=
  l.alpha.isNaN = true ∨ l.beta.isNaN = true

namespace Settings

variable {s : Settings}

theorem isUsable_of_isValid (h : s.IsValid) : s.IsUsable where
  nonempty := h.nonempty
  endpoints := h.endpoints
  limits := ⟨h.limiter.least, h.limiter.initial, h.limiter.greatest⟩
  ratio := h.limiter.ratio
  window := ⟨one_le_toNat_iff.mp h.limiter.windowMs, one_le_toNat_iff.mp h.limiter.windowSamples⟩
  backoff := h.backoff
  timeouts := ⟨h.attempt, h.connect⟩

theorem IsUsable.isValid (h : s.IsUsable) (thresholds : ¬s.limiter.beta ≤ s.limiter.alpha) :
    s.IsValid where
  nonempty := h.nonempty
  endpoints := h.endpoints
  limiter :=
    { least := h.limits.1
      initial := h.limits.2.1
      greatest := h.limits.2.2
      ratio := h.ratio
      thresholds := thresholds
      windowMs := one_le_toNat_iff.mpr h.window.1
      windowSamples := one_le_toNat_iff.mpr h.window.2 }
  backoff := h.backoff
  attempt := h.timeouts.1
  connect := h.timeouts.2

/-- Thresholds in the documented order are numbers. -/
theorem IsDocumented.not_hasNaN (h : s.IsDocumented) : ¬s.limiter.HasNaN := by
  obtain ⟨first, second⟩ := Binary64.isNaN_of_lt h.thresholds
  rintro (nan | nan)
  · rw [first] at nan
    cases nan
  · rw [second] at nan
    cases nan

/-- The check finds no fault in usable settings whose thresholds are in order, or of which one is
not a number. -/
theorem faults_eq_nil_iff_usable :
    s.faults = [] ↔
      s.IsUsable ∧ (s.limiter.alpha < s.limiter.beta ∨ s.limiter.HasNaN) := by
  rw [faults_eq_nil_iff]
  constructor
  · intro h
    exact ⟨isUsable_of_isValid h, Binary64.not_le_iff.mp h.limiter.thresholds⟩
  · rintro ⟨usable, thresholds⟩
    exact usable.isValid (Binary64.not_le_iff.mpr thresholds)

/-- The check is as documented but for thresholds that are not numbers. Settings without fault are
those that are as documented, and beyond these the usable ones with a threshold that is not a
number. There, and only there, check and documentation differ. -/
theorem faults_documented_iff (s : Settings) :
    (s.faults = [] ↔ s.IsDocumented ∨ s.IsUsable ∧ s.limiter.HasNaN) ∧
    ((s.faults = [] ↔ s.IsDocumented) ↔ ¬(s.IsUsable ∧ s.limiter.HasNaN)) := by
  have accepted : s.faults = [] ↔ s.IsDocumented ∨ s.IsUsable ∧ s.limiter.HasNaN := by
    rw [faults_eq_nil_iff_usable]
    constructor
    · rintro ⟨usable, thresholds | nan⟩
      · exact .inl ⟨usable, thresholds⟩
      · exact .inr ⟨usable, nan⟩
    · rintro (documented | ⟨usable, nan⟩)
      · exact ⟨documented.toIsUsable, .inl documented.thresholds⟩
      · exact ⟨usable, .inr nan⟩
  refine ⟨accepted, ?_, ?_⟩
  · rintro same ⟨usable, nan⟩
    have documented := same.mp (accepted.mpr (.inr ⟨usable, nan⟩))
    exact documented.not_hasNaN nan
  · intro numbers
    rw [accepted]
    exact or_iff_left numbers

/-- A file that sets a threshold to what is not a number is accepted, against the documentation. -/
theorem faults_not_documented :
    ∃ s, ofCheckedText "endpoints = [\"http://a\"]\n[limiter]\nalpha = nan\n" = .ok s ∧
      s.faults = [] ∧ ¬s.IsDocumented := by
  have read : (ofCheckedText "endpoints = [\"http://a\"]\n[limiter]\nalpha = nan\n").toOption.map
      (fun s => (s.faults.isEmpty, s.limiter.alpha.isNaN)) = some (true, true) := by decide +kernel
  generalize ofCheckedText _ = held at read
  obtain _ | s := held
  · cases read
  · obtain ⟨found, nan⟩ := Prod.mk.inj (Option.some.inj read)
    exact ⟨s, rfl, List.isEmpty_iff.mp found, fun documented => documented.not_hasNaN (.inl nan)⟩

end Settings
end Failover
