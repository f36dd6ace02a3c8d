import Failover.Backoff

/-!
# The waits of an exponential policy

An exponential policy reckons its waits in words, which stop at the largest one: first the power of
two may, then its product with the base. Neither stop is ever seen. Where one is reached, the exact
wait is beyond every cap that a word can hold, and is cut at the cap. So a call that asks for one
wait after another gets the exact ones, as many as the policy allows, and then none.
-/

namespace Failover

namespace Backoff

/-- The wait before retry `slot`, reckoned in numbers without bound: whole milliseconds of the base,
doubled every time, and no more than those of the cap. -/
def exact (base cap : Span) (slot : Nat) : Span :=
  .ofMillis (min (base.millis * Nat.pow 2 slot) cap.millis)

variable {base cap : Span} {baseMs capMs slot later : Nat}

/-! ## One wait -/

/-- A power of two that stops is no less than the largest word, and is not reckoned any further. -/
theorem clip_pow (slot : Nat) :
    Word64.clip (Nat.pow 2 (min slot 64)) = Word64.clip (Nat.pow 2 slot) := by
  by_cases early : slot ≤ 64
  · rw [Nat.min_eq_left early]
  · have late : 64 ≤ slot := Nat.le_of_not_le early
    have large : Nat.pow 2 64 ≤ Nat.pow 2 slot := Nat.pow_le_pow_right (by decide) late
    have word : Word64.largest ≤ Nat.pow 2 64 := by decide
    rw [Nat.min_eq_right late]
    show min _ Word64.largest = min _ Word64.largest
    omega

/-- A product with a factor that stops is below a cap that fits a word only if it is exact. -/
theorem min_clip_mul_clip (capFits : capMs ≤ Word64.largest) (a b : Nat) :
    min (Word64.clip (a * Word64.clip b)) capMs = min (a * b) capMs := by
  rcases Nat.le_total b Word64.largest with word | large
  · rw [Word64.clip_of_le word]
    show min (min _ Word64.largest) capMs = _
    omega
  · have full : Word64.clip b = Word64.largest := Nat.min_eq_right large
    rw [full]
    rcases Nat.eq_zero_or_pos a with rfl | pos
    · rw [Nat.zero_mul, Nat.zero_mul]
      rfl
    · -- then both products are beyond the cap
      have stopped : Word64.largest ≤ a * Word64.largest := Nat.le_mul_of_pos_left _ pos
      have whole : b ≤ a * b := Nat.le_mul_of_pos_left _ pos
      show min (min _ Word64.largest) capMs = _
      omega

/-- The words stop only where the cap cuts anyway. -/
theorem doubled_eq (capFits : capMs ≤ Word64.largest) :
    doubled baseMs capMs slot = min (baseMs * Nat.pow 2 slot) capMs := by
  rw [doubled, clip_pow, min_clip_mul_clip capFits]

/-- A span whose milliseconds fit a word loses none of them. -/
theorem wordMillis_of_lt {d : Span} (fits : d.nanos < (Span.ofMillis Word64.size).nanos) :
    wordMillis d = d.millis ∧ d.millis ≤ Word64.largest := by
  have short : d.millis < Word64.size := by
    rw [Span.nanos_ofMillis] at fits
    rw [Span.millis]
    omega
  exact ⟨Word64.wrap_of_lt short, Nat.le_of_lt_succ short⟩

theorem delay?_exponential (baseFits : base.nanos < (Span.ofMillis Word64.size).nanos)
    (capFits : cap.nanos < (Span.ofMillis Word64.size).nanos) (maxRetries drawn slot : Nat) :
    (exponential base cap maxRetries false).delay? drawn slot =
      if slot < maxRetries then some (exact base cap slot) else none := by
  obtain ⟨wholeBase, _⟩ := wordMillis_of_lt baseFits
  obtain ⟨wholeCap, word⟩ := wordMillis_of_lt capFits
  simp only [delay?]
  by_cases allowed : slot < maxRetries
  · rw [if_neg (Nat.not_le_of_lt allowed), if_pos allowed, wholeBase, wholeCap, doubled_eq word]
    rfl
  · rw [if_pos (Nat.le_of_not_lt allowed), if_neg allowed]

theorem exact_mono (base cap : Span) (before : slot ≤ later) :
    (exact base cap slot).nanos ≤ (exact base cap later).nanos := by
  have power : Nat.pow 2 slot ≤ Nat.pow 2 later := Nat.pow_le_pow_right (by decide) before
  have product := Nat.mul_le_mul_left base.millis power
  rw [exact, exact, Span.nanos_ofMillis, Span.nanos_ofMillis]
  omega

theorem exact_le (base cap : Span) (slot : Nat) : (exact base cap slot).nanos ≤ cap.nanos := by
  have whole : cap.millis * 1000000 ≤ cap.nanos := Nat.div_mul_le_self cap.nanos 1000000
  exact Nat.le_trans (Nat.mul_le_mul_right _ (Nat.min_le_right _ _)) whole

/-- The policy of settings that ask for no jitter. -/
theorem delay?_ofSettings {r : RetrySettings} (even : r.jitter = false) (drawn slot : Nat) :
    (ofSettings r).delay? drawn slot =
      if slot < (if r.enabled then r.maxRetries.toNat else 0) then
        some (exact (.ofMillis r.baseDelayMs.toNat) (.ofMillis r.maxDelayMs.toNat) slot)
      else none := by
  have fits : ∀ ms : UInt64, (Span.ofMillis ms.toNat).nanos < (Span.ofMillis Word64.size).nanos :=
    fun ms => Nat.mul_lt_mul_of_pos_right ms.toNat_lt (by decide)
  by_cases enabled : r.enabled = true
  · rw [if_pos enabled]
    by_cases none : r.maxRetries = 0
    · simp [ofSettings, enabled, none, delay?]
    · rw [ofSettings, if_neg (by simp [enabled, none]), even,
        delay?_exponential (fits _) (fits _)]
  · simp [ofSettings, enabled, delay?]

theorem slots_ofSettings (r : RetrySettings) :
    (ofSettings r).slots = if r.enabled then r.maxRetries.toNat else 0 := by
  unfold ofSettings
  by_cases enabled : r.enabled = true
  · by_cases none : r.maxRetries = 0
    · simp [enabled, none, slots]
    · simp [enabled, none, slots]
  · simp [enabled, slots]

end Backoff

/-! ## One wait after another -/

namespace BackoffCursor

/-- The answers to one request for a wait after another, with the jitter that is drawn for each, and
the cursor they leave. -/
def nexts (c : BackoffCursor) : List Nat → List (Option Span) × BackoffCursor
  | [] => ([], c)
  | drawn :: draws =>
    match c.next? drawn with
    | some (wait, used) => (some wait :: (used.nexts draws).1, (used.nexts draws).2)
    | none => (none :: (c.nexts draws).1, (c.nexts draws).2)

/-- A used-up cursor gives no wait and stays as it is. -/
theorem nexts_of_spent {c : BackoffCursor} (spent : c.policy.slots ≤ c.position)
    (draws : List Nat) : c.nexts draws = (List.replicate draws.length none, c) := by
  induction draws with
  | nil => rfl
  | cons drawn draws ih =>
    have refused : c.policy.delay? drawn c.position = none := by
      rw [← Option.not_isSome_iff_eq_none, Backoff.delay?_isSome_iff]
      omega
    rw [nexts, next?, refused]
    simp only [Option.map_none, ih]
    rfl

variable {policy : Backoff} {waitAt : Nat → Option Span}

/-- A policy that leaves nothing to chance answers by the slots one after another. The cursor stops
behind the last of them. -/
theorem nexts_eq (settled : ∀ drawn slot, policy.delay? drawn slot = waitAt slot) {position : Nat}
    (within : position ≤ policy.slots) (draws : List Nat) :
    nexts ⟨policy, position⟩ draws =
      ((List.range draws.length).map fun k => waitAt (position + k),
        ⟨policy, min (position + draws.length) policy.slots⟩) := by
  have given : ∀ slot, (waitAt slot).isSome ↔ slot < policy.slots := fun slot => by
    rw [← settled 0]
    exact policy.delay?_isSome_iff 0 slot
  induction draws generalizing position with
  | nil => simp [nexts, Nat.min_eq_left within]
  | cons drawn draws ih =>
    by_cases room : position < policy.slots
    · obtain ⟨wait, here⟩ := Option.isSome_iff_exists.mp ((given position).mpr room)
      rw [nexts, next?, settled, here, List.length_cons, List.range_succ_eq_map, List.map_cons,
        List.map_map]
      simp only [Option.map_some, ih (Nat.succ_le_of_lt room)]
      simp only [Function.comp_def, Nat.succ_eq_add_one, Nat.add_assoc, Nat.add_comm 1,
        Nat.add_zero, here]
    · -- from a used-up slot on there is no wait for any of the requests
      have all : position = policy.slots := Nat.le_antisymm within (Nat.le_of_not_lt room)
      have spent : ∀ k, waitAt (position + k) = none := fun k => by
        rw [← Option.not_isSome_iff_eq_none, given]
        omega
      rw [nexts_of_spent (Nat.le_of_not_lt room)]
      simp only [spent, List.map_const', List.length_range]
      rw [all, Nat.min_eq_right (Nat.le_add_right _ _)]

theorem nexts_start (settled : ∀ drawn slot, policy.delay? drawn slot = waitAt slot)
    (draws : List Nat) :
    (start policy).nexts draws =
      ((List.range draws.length).map waitAt, ⟨policy, min draws.length policy.slots⟩) := by
  have answers := nexts_eq settled (Nat.zero_le policy.slots) draws
  simp only [Nat.zero_add] at answers
  exact answers

/-- As many requests are answered by a wait as there are, up to the slots. -/
theorem countP_range_lt (asked slots : Nat) :
    (List.range asked).countP (fun slot => decide (slot < slots)) = min asked slots := by
  induction asked with
  | zero => exact (Nat.zero_min slots).symm
  | succ asked ih =>
    rw [List.range_succ, List.countP_append, ih, List.countP_singleton]
    simp only [decide_eq_true_eq]
    split <;> omega

variable {base cap : Span}

/-- The waits that an exponential policy without jitter gives are the exact ones. However often it
is asked, each request for which the policy has a slot left is answered by the base doubled as often
as there were answers before, or by the cap if that is less, in whole milliseconds and without bound
on what is reckoned; every later request is answered by nothing and changes nothing. So the waits
never get shorter, none is longer than the cap, and there are as many as the policy allows. Every
policy that settings describe is of this kind, or gives no wait at all. -/
theorem delays_exact (baseFits : base.nanos < (Span.ofMillis Word64.size).nanos)
    (capFits : cap.nanos < (Span.ofMillis Word64.size).nanos) (maxRetries : Nat)
    (draws : List Nat) :
    let asked := (start (.exponential base cap maxRetries false)).nexts draws
    asked.1 = (List.range draws.length).map (fun slot =>
      if slot < maxRetries then some (Backoff.exact base cap slot) else none) ∧
    asked.2.position = min draws.length maxRetries ∧
    (∀ (slot later : Nat) (wait longer : Span), slot ≤ later → asked.1[slot]? = some (some wait) →
      asked.1[later]? = some (some longer) → wait.nanos ≤ longer.nanos ∧
        longer.nanos ≤ cap.nanos) ∧
    asked.1.countP (·.isSome) = min draws.length maxRetries ∧
    (maxRetries ≤ draws.length → ∀ more,
      asked.2.nexts more = (List.replicate more.length none, asked.2)) ∧
    ∀ r : RetrySettings, r.jitter = false →
      let built := (start (.ofSettings r)).nexts draws
      let allowed := if r.enabled then r.maxRetries.toNat else 0
      built.1 = (List.range draws.length).map (fun slot =>
        if slot < allowed then
          some (Backoff.exact (.ofMillis r.baseDelayMs.toNat) (.ofMillis r.maxDelayMs.toNat) slot)
        else none) ∧
      built.2.position = min draws.length allowed := by
  intro asked
  have settled := Backoff.delay?_exponential baseFits capFits maxRetries
  have answers := nexts_start settled draws
  have waits : asked.1 = (List.range draws.length).map _ := congrArg Prod.fst answers
  have left : asked.2 = ⟨.exponential base cap maxRetries false, min draws.length maxRetries⟩ :=
    congrArg Prod.snd answers
  have wait_eq : ∀ slot wait, asked.1[slot]? = some (some wait) →
      wait = Backoff.exact base cap slot := by
    intro slot wait given
    rw [waits, List.getElem?_map] at given
    obtain ⟨k, at_k, here⟩ := Option.map_eq_some_iff.mp given
    obtain ⟨_, rfl⟩ := List.getElem?_eq_some_iff.mp at_k
    rw [List.getElem_range] at here
    split at here
    · exact (Option.some.inj here).symm
    · cases here
  refine ⟨waits, by rw [left], ?_, ?_, ?_, ?_⟩
  · intro slot later wait longer before given given'
    rw [wait_eq slot wait given, wait_eq later longer given']
    exact ⟨Backoff.exact_mono base cap before, Backoff.exact_le base cap later⟩
  · rw [waits, List.countP_map, ← countP_range_lt]
    congr 1
    funext slot
    by_cases allowed : slot < maxRetries <;> simp [allowed]
  · intro spent more
    rw [left, Nat.min_eq_right spent]
    apply nexts_of_spent
    exact Nat.le_refl maxRetries
  · intro r even
    have built := nexts_start (Backoff.delay?_ofSettings even) draws
    rw [Backoff.slots_ofSettings] at built
    rw [built]
    exact ⟨rfl, rfl⟩

/-- One millisecond doubled under the largest cap: the sixty-fourth wait is the last one below it,
and the policy gives a few more before it is used up. -/
theorem delays_exact_longest :
    let asked :=
      (start (.exponential (.ofMillis 1) (.ofMillis Word64.largest) 70 false)).nexts
        (List.replicate 72 0)
    let built := (start (.ofSettings { jitter := false })).nexts (List.replicate 72 0)
    asked.1[63]? = some (some (.ofMillis (Nat.pow 2 63))) ∧
    asked.1[64]? = some (some (.ofMillis Word64.largest)) ∧
    asked.1[70]? = some none ∧ asked.2.position = 70 ∧
    (Span.ofMillis (Nat.pow 2 63)).nanos ≤ (Span.ofMillis Word64.largest).nanos ∧
    asked.2.nexts [0, 0] = ([none, none], asked.2) ∧
    built.1[2]? = some (some (.ofMillis 1000)) ∧ built.2.position = 3 := by
  intro asked built
  obtain ⟨waits, position, longer, _, spent, settings⟩ :=
    @delays_exact (.ofMillis 1) (.ofMillis Word64.largest) (by decide) (by decide) 70
      (List.replicate 72 0)
  obtain ⟨waits', position'⟩ := settings { jitter := false } rfl
  have last : asked.1[63]? = some (some (.ofMillis (Nat.pow 2 63))) := by
    rw [waits]
    decide +kernel
  have first : asked.1[64]? = some (some (.ofMillis Word64.largest)) := by
    rw [waits]
    decide +kernel
  refine ⟨last, first, ?_, position, (longer 63 64 _ _ (by decide) last first).1,
    spent (by decide) [0, 0], ?_, position'⟩
  · rw [waits]
    decide +kernel
  · rw [waits']
    decide +kernel

end BackoffCursor
end Failover
