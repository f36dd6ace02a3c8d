import Failover.Proofs.Config.Documented
import Failover.Proofs.Limiter.Blocks
import Mathlib.Data.List.Induction

/-!
# How far one window moves a limit

The rule weighs a limit by floats that nobody has vouched for, and still one window moves a limit
only so far. A limit grows by one at most, and not at all under a window that left half of it
unused; a drop cuts it. The sum for growth is safe for the same reason: there is no window that used
half of the largest word.
-/

namespace Failover

/-! ## The sum of the round trips -/

namespace Window

/-- Each round trip adds to the sum until that stands at the largest word. -/
def IsSummed (w : Window) : Prop := min w.samples Word64.largest ≤ w.total

theorem IsSummed.seenBy {w : Window} (h : w.IsSummed) (r : Report) : (r.seenBy w).IsSummed := by
  obtain ⟨rtt, inFlight, moment⟩ := r
  cases rtt with
  | none => exact h
  | some rtt =>
    have pos := counted_pos rtt
    show min (w.samples + 1) Word64.largest ≤ min (w.total + counted rtt) Word64.largest
    have summed : min w.samples Word64.largest ≤ w.total := h
    omega

theorem isSummed_ofBlock (block : List Report) : (ofBlock block).IsSummed := by
  induction block using List.reverseRecOn with
  | nil => exact Nat.zero_le _
  | append_singleton block r ih =>
    rw [ofBlock_concat]
    exact ih.seenBy r

/-- The mean of round trips that a word can count is not zero. -/
theorem IsSummed.mean_pos {w : Window} (h : w.IsSummed) (counted : w.samples ≤ Word64.largest)
    (sampled : 0 < w.samples) : 0 < w.total / w.samples := by
  rw [IsSummed, Nat.min_eq_left counted] at h
  exact Nat.div_pos h sampled

end Window

/-! ## The rule with its steps checked -/

/-- A number, if it is a 64-bit word. -/
def Word64.fit? (n : Nat) : Option Nat := if n ≤ largest then some n else none

/-- A whole quotient, unless the divisor is zero. -/
def Word64.quotient? (a b : Nat) : Option Nat := if b = 0 then none else some (a / b)

/-- How often one span holds another, unless that is no time at all. -/
def Span.ratio? (a b : Span) : Option Float :=
  if b = zero then none else some (a.seconds / b.seconds)

/-- `x` between two bounds, unless these are out of order. -/
def Binary64.between? (low high x : Float) : Option Float :=
  if low ≤ high then some (if x < low then low else if high < x then high else x) else none

namespace LimitRule

/-- The part of the limit that queued, of a window with a sample: `none` if a step fails. -/
def checkedQueue? (limit : Nat) (w : Window) : Option Float := do
  let mean ← Word64.quotient? w.total w.samples
  let ratio ← Span.ratio? ⟨w.least⟩ ⟨mean⟩
  let served ← Binary64.between? 0.0 1.0 ratio
  some (Word64.toFloat limit * (1.0 - served))

/-- The limit that a window asks for: `none` if a step fails. -/
def checkedWanted? (r : LimitRule) (limit : Nat) (w : Window) : Option Nat :=
  if w.didDrop then some (r.cut limit)
  else if w.samples = 0 then some limit
  else do
    let queue ← checkedQueue? limit w
    if queue < r.alpha then
      let doubled ← Word64.fit? (w.maxInFlight * 2)
      if doubled < limit then some limit else Word64.fit? (limit + 1)
    else if r.beta < queue then some (r.cut limit)
    else some limit

/-- The limit after a window: `none` if a step overflows a 64-bit word, divides by zero, or puts a
number between bounds that are out of order. -/
def checkedUpdate? (r : LimitRule) (limit : Nat) (w : Window) : Option Nat := do
  let wanted ← r.checkedWanted? limit w
  if r.minLimit ≤ r.maxLimit then some (r.clamp wanted) else none

variable {r : LimitRule} {limit : Nat} {w : Window}

theorem checkedQueue?_eq (summed : w.IsSummed) (counted : w.samples ≤ Word64.largest)
    (sampled : 0 < w.samples) : checkedQueue? limit w = queue? limit w := by
  have pos := summed.mean_pos counted sampled
  have mean : (⟨w.total / w.samples⟩ : Span) ≠ .zero := by
    intro none
    rw [Span.mk.inj none] at pos
    exact Nat.lt_irrefl 0 pos
  have ordered : (0.0 : Float) ≤ 1.0 := by decide +kernel
  have quotient : Word64.quotient? w.total w.samples = some (w.total / w.samples) :=
    if_neg (Nat.pos_iff_ne_zero.mp sampled)
  have ratio : ∀ least, Span.ratio? least ⟨w.total / w.samples⟩ =
      some (least.seconds / Span.seconds ⟨w.total / w.samples⟩) := fun _ => if_neg mean
  have served : ∀ x, Binary64.between? 0.0 1.0 x = some (unitClamp x) := fun _ => if_pos ordered
  rw [checkedQueue?, quotient, queue?, Window.leastRtt?, Window.meanRtt?, if_pos sampled,
    if_pos sampled]
  simp only [Option.bind_eq_bind, Option.bind_some, ratio, served]

theorem exists_queue (sampled : 0 < w.samples) : ∃ queue, queue? limit w = some queue := by
  rw [queue?, Window.leastRtt?, Window.meanRtt?, if_pos sampled, if_pos sampled]
  exact ⟨_, rfl⟩

theorem checkedWanted?_eq (summed : w.IsSummed) (counted : w.samples ≤ Word64.largest)
    (word : limit ≤ Word64.largest) (used : w.maxInFlight < Nat.pow 2 63) :
    r.checkedWanted? limit w = some (r.wanted limit w) := by
  have doubled : w.maxInFlight * 2 < Word64.largest := by
    have half : Nat.pow 2 63 * 2 = Word64.largest + 1 := rfl
    omega
  rw [checkedWanted?, wanted]
  split
  · rfl
  · split
    · rename_i none
      rw [queue?, Window.leastRtt?, none]
      rfl
    · rename_i sampled
      replace sampled := Nat.pos_iff_ne_zero.mpr sampled
      obtain ⟨queue, known⟩ := @exists_queue limit w sampled
      rw [checkedQueue?_eq summed counted sampled, known, Word64.fit?,
        if_pos (Nat.le_of_lt doubled), isIdle, Word64.wrap_of_lt (Nat.lt_succ_of_lt doubled)]
      show (if queue < r.alpha then if _ then _ else _ else _) = _
      simp only [decide_eq_true_eq]
      split
      · split
        · rfl
        · -- a limit that was used to the half is not the largest word
          rename_i busy
          have room : limit + 1 ≤ Word64.largest := by omega
          rw [Word64.fit?, if_pos room, Word64.wrap_of_lt (Nat.lt_succ_of_le room)]
      · split <;> rfl

theorem checkedUpdate?_eq (ordered : r.minLimit ≤ r.maxLimit) (summed : w.IsSummed)
    (counted : w.samples ≤ Word64.largest) (word : limit ≤ Word64.largest)
    (used : w.maxInFlight < Nat.pow 2 63) : r.checkedUpdate? limit w = some (r.update limit w) := by
  rw [checkedUpdate?, checkedWanted?_eq summed counted word used]
  exact if_pos ordered

/-! ## The limit after a window -/

/-- A window has the limit cut, left as it is, or raised by one. It is raised only by a window
without drops and with samples that used half of the limit and kept the queue short. -/
theorem wanted_cases (r : LimitRule) (limit : Nat) (w : Window) :
    r.wanted limit w = r.cut limit ∨
    (w.didDrop = false ∧ r.wanted limit w = limit) ∨
    (w.didDrop = false ∧ w.samples ≠ 0 ∧ isIdle limit w = false ∧
      (∃ queue, queue? limit w = some queue ∧ queue < r.alpha) ∧
      r.wanted limit w = Word64.wrap (limit + 1)) := by
  rw [wanted]
  split
  · exact .inl rfl
  · rename_i whole
    replace whole := Bool.eq_false_iff.mpr whole
    by_cases sampled : 0 < w.samples
    · obtain ⟨queue, known⟩ := @exists_queue limit w sampled
      rw [known]
      show (if _ then _ else _) = _ ∨ (_ ∧ (if _ then _ else _) = _) ∨ _
      by_cases short : queue < r.alpha
      · rw [if_pos short]
        cases idle : isIdle limit w with
        | true => exact .inr (.inl ⟨whole, rfl⟩)
        | false =>
          refine .inr (.inr ⟨whole, Nat.pos_iff_ne_zero.mp sampled, rfl, ⟨queue, rfl, short⟩, ?_⟩)
          exact if_pos short
      · rw [if_neg short]
        by_cases long : r.beta < queue
        · exact .inl (if_pos long)
        · exact .inr (.inl ⟨whole, if_neg long⟩)
    · have unsampled : queue? limit w = none := by
        rw [queue?, Window.leastRtt?, if_neg sampled]
        rfl
      rw [unsampled]
      exact .inr (.inl ⟨whole, rfl⟩)

theorem cut_le (r : LimitRule) (limit : Nat) : r.cut limit ≤ limit - 1 := Nat.min_le_right _ _

theorem wanted_le_succ (r : LimitRule) (limit : Nat) (w : Window) :
    r.wanted limit w ≤ limit + 1 := by
  rcases wanted_cases r limit w with cut | ⟨_, same⟩ | ⟨_, _, _, _, raised⟩
  · have := r.cut_le limit
    omega
  · omega
  · rw [raised]
    exact Nat.mod_le _ _

/-- A window raises no limit unless it has a sample and used half of the limit. -/
theorem wanted_le_of_unused (r : LimitRule)
    (unused : w.samples = 0 ∨ 2 * w.maxInFlight < limit) : r.wanted limit w ≤ limit := by
  rcases wanted_cases r limit w with cut | ⟨_, same⟩ | ⟨_, sampled, busy, _⟩
  · have := r.cut_le limit
    omega
  · omega
  · have doubled : Word64.wrap (w.maxInFlight * 2) ≤ w.maxInFlight * 2 := Nat.mod_le _ _
    rw [isIdle, decide_eq_false_iff_not] at busy
    omega

theorem wanted_of_drop (r : LimitRule) (limit : Nat) (h : w.didDrop = true) :
    r.wanted limit w = r.cut limit := if_pos h

theorem clamp_le {n bound : Nat} (r : LimitRule) (h : n ≤ bound) :
    r.clamp n ≤ max r.minLimit bound := by
  rw [clamp]
  split
  · omega
  · split <;> omega

/-- A drop cuts a limit that is above the least one. -/
theorem update_lt_of_drop (r : LimitRule) (h : w.didDrop = true) (above : r.minLimit < limit) :
    r.update limit w < limit := by
  have below : r.cut limit ≤ limit - 1 := r.cut_le limit
  rw [update, wanted_of_drop r limit h]
  have := r.clamp_le below
  omega

/-- A drop raises no limit that is not below the least one. -/
theorem update_le_of_drop (r : LimitRule) (h : w.didDrop = true) (least : r.minLimit ≤ limit) :
    r.update limit w ≤ limit := by
  have below : r.cut limit ≤ limit - 1 := r.cut_le limit
  rw [update, wanted_of_drop r limit h]
  have := r.clamp_le below
  omega

theorem update_le_of_unused (r : LimitRule)
    (unused : w.samples = 0 ∨ 2 * w.maxInFlight < limit) :
    r.update limit w ≤ max r.minLimit limit := r.clamp_le (r.wanted_le_of_unused unused)

/-- A lower threshold that is not a number leaves no queue short: the limit never grows again. -/
theorem update_le_of_isNaN (h : r.alpha.isNaN = true) (limit : Nat) (w : Window) :
    r.update limit w ≤ max r.minLimit limit := by
  refine r.clamp_le ?_
  rcases wanted_cases r limit w with cut | ⟨_, same⟩ | ⟨_, _, _, ⟨queue, _, short⟩, _⟩
  · have := r.cut_le limit
    omega
  · omega
  · rw [(Binary64.isNaN_of_lt short).2] at h
    cases h

/-- The envelope of the rule, whatever the floats in its settings. The limit after a window is
within the bounds of the rule, and above neither the least limit nor one more than the limit before.
A drop cuts a limit that is above the least one. A window without samples, or one that used less than
half of the limit, raises nothing but a limit below the least. No step of the rule overflows, divides
by a mean of zero or is given bounds out of order, as long as the numbers it starts from are 64-bit
words and the callers were no more than half of these can count. -/
theorem update_envelope (s : LimiterSettings) (limit : Nat) (block : List Report) :
    let r := ofSettings s
    let w := Window.ofBlock block
    let next := r.update limit w
    (r.minLimit ≤ next ∧ next ≤ r.maxLimit ∧ next ≤ max r.minLimit (limit + 1)) ∧
    (w.didDrop = true → r.minLimit < limit → next < limit) ∧
    (w.samples = 0 ∨ 2 * w.maxInFlight < limit → next ≤ max r.minLimit limit) ∧
    (limit ≤ Word64.largest → w.samples ≤ Word64.largest → w.maxInFlight < Nat.pow 2 63 →
      r.checkedUpdate? limit w = some next) := by
  intro r w next
  have ordered : r.minLimit ≤ r.maxLimit := minLimit_le_maxLimit s
  obtain ⟨least, greatest⟩ := between_clamp ordered (r.wanted limit w)
  refine ⟨⟨least, greatest, r.clamp_le (r.wanted_le_succ limit w)⟩, ?_, ?_, ?_⟩
  · exact r.update_lt_of_drop
  · exact r.update_le_of_unused
  · intro word counted used
    exact checkedUpdate?_eq ordered (Window.isSummed_ofBlock block) counted word used

/-- The largest limit under a window that used all but one of the slots that still leave half of it
free, and the same limit after a drop, with thresholds that are not numbers and a ratio beyond
all. -/
theorem update_envelope_largest :
    let s : LimiterSettings := { alpha := 0.0 / 0.0, beta := 0.0 / 0.0, backoffRatio := 1.0 / 0.0 }
    let r := ofSettings s
    let used : Window := .ofBlock [⟨some .zero, Nat.pow 2 63 - 1, 0⟩]
    let dropped : Window := .ofBlock [⟨some .zero, Nat.pow 2 63 - 1, 0⟩, ⟨none, 7, 0⟩]
    r.update Word64.largest used ≤ max r.minLimit Word64.largest ∧
    r.checkedUpdate? Word64.largest used = some (r.update Word64.largest used) ∧
    r.update Word64.largest dropped < Word64.largest := by
  intro s r used dropped
  obtain ⟨_, _, unused, safe⟩ :=
    update_envelope s Word64.largest [⟨some .zero, Nat.pow 2 63 - 1, 0⟩]
  obtain ⟨_, cuts, _⟩ :=
    update_envelope s Word64.largest [⟨some .zero, Nat.pow 2 63 - 1, 0⟩, ⟨none, 7, 0⟩]
  refine ⟨unused (.inr ?_), safe (Nat.le_refl _) ?_ ?_, cuts rfl ?_⟩
  all_goals decide

end LimitRule
end Failover
