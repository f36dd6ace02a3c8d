import Failover.Proofs.Limiter.Envelope
import Mathlib.Algebra.Order.BigOperators.Group.List
import Mathlib.Algebra.Order.Ring.Nat
import Mathlib.Data.List.Fold
import Mathlib.Data.List.Perm.Basic

/-!
# What a window says of its block

A window is made report by report, and its sum stops at the largest word on the way. Still nothing
depends on the way: two reports can change places before any others, so the window is one of the
block as a bag, and a stop inside the sum is no other than one at its end. Each number of the window
is then the one that the block itself has: how many round trips and drops, the least and the mean
round trip, and the most permits that were out.
-/

namespace Failover

/-! ## The numbers of a block -/

/-- The nanoseconds of a round trip, at least one and at most the largest word; a drop has none. -/
def Report.nanos? (r : Report) : Option Nat :=
  r.rtt.map fun rtt => min (max rtt.nanos 1) Word64.largest

/-- The round trips of a block in nanoseconds. -/
def roundTrips (block : List Report) : List Nat := block.filterMap Report.nanos?

/-- A sum that was stopped at the largest word stops there again, if it goes on. -/
theorem Word64.clip_clip_add (a b : Nat) : clip (clip a + b) = clip (a + b) := by
  show min (min a largest + b) largest = min (a + b) largest
  omega

namespace Window

variable {block other : List Report} {least mean : Span}

theorem counted_eq (rtt : Span) : counted rtt = min (max rtt.nanos 1) Word64.largest := by
  have one : 1 ≤ Word64.largest := by decide
  show max (min rtt.nanos Word64.largest) 1 = _
  omega

theorem counted_le (rtt : Span) : counted rtt ≤ Word64.largest := by
  rw [counted_eq]
  exact Nat.min_le_right _ _

theorem roundTrips_cons (r : Report) (block : List Report) :
    roundTrips (r :: block) =
      match r.rtt with
      | some rtt => counted rtt :: roundTrips block
      | none => roundTrips block := by
  obtain ⟨rtt, inFlight, moment⟩ := r
  cases rtt with
  | some rtt =>
    show _ = counted rtt :: roundTrips block
    rw [counted_eq]
    exact List.filterMap_cons_some rfl
  | none => exact List.filterMap_cons_none rfl

theorem length_roundTrips (block : List Report) :
    (roundTrips block).length = (ofBlock block).samples := by
  rw [samples_ofBlock, roundTrips, List.length_filterMap_eq_countP]
  congr 1
  funext r
  rw [Report.nanos?, Option.isSome_map, Report.isDrop, Option.not_isNone]

theorem roundTrips_eq_nil_iff : roundTrips block = [] ↔ (ofBlock block).samples = 0 := by
  rw [← length_roundTrips, List.length_eq_zero_iff]

theorem samples_eq_zero_iff : (ofBlock block).samples = 0 ↔ ∀ r ∈ block, r.isDrop = true := by
  rw [samples_ofBlock, List.countP_eq_zero]
  simp only [Bool.not_eq_true', Bool.not_eq_false]

theorem leastRtt?_eq_none_iff (w : Window) : w.leastRtt? = none ↔ w.samples = 0 := by
  simp [leastRtt?]

theorem meanRtt?_eq_none_iff (w : Window) : w.meanRtt? = none ↔ w.samples = 0 := by
  simp [meanRtt?]

/-! ## The order of the reports -/

/-- Two reports leave the same window, whichever comes first. -/
instance : RightCommutative Report.seenBy where
  right_comm w := by
    rintro ⟨first, _, _⟩ ⟨second, _, _⟩
    cases first <;> cases second <;>
      simp only [Report.seenBy, addSample, addDrop, Word64.clip_clip_add, Nat.add_right_comm,
        Nat.min_right_comm, Nat.max_right_comm]

/-- The window of a block does not depend on its order. -/
theorem ofBlock_perm (same : other.Perm block) : ofBlock other = ofBlock block :=
  same.foldl_eq Window.empty

/-- A report at the front of a block counts as one at its end. -/
theorem ofBlock_cons (r : Report) (block : List Report) :
    ofBlock (r :: block) = r.seenBy (ofBlock block) := List.foldl_cons_eq_apply_foldl

/-! ## Each number of a window -/

theorem total_ofBlock (block : List Report) :
    (ofBlock block).total = Word64.clip (roundTrips block).sum := by
  -- the order is free, so the induction takes the report at the front as the last one
  induction block with
  | nil => rfl
  | cons r rest ih =>
    rw [ofBlock_cons, roundTrips_cons]
    obtain ⟨rtt, inFlight, moment⟩ := r
    cases rtt with
    | some rtt =>
      show Word64.clip ((ofBlock rest).total + counted rtt) = Word64.clip (List.sum (_ :: _))
      rw [ih, Word64.clip_clip_add, List.sum_cons, Nat.add_comm]
    | none => exact ih

theorem least_ofBlock (block : List Report) :
    (ofBlock block).least = (roundTrips block).min?.getD Word64.largest := by
  induction block with
  | nil => rfl
  | cons r rest ih =>
    rw [ofBlock_cons, roundTrips_cons]
    obtain ⟨rtt, inFlight, moment⟩ := r
    cases rtt with
    | some rtt =>
      show min (ofBlock rest).least (counted rtt) = (List.min? (_ :: _)).getD _
      rw [ih, List.min?_cons]
      cases (roundTrips rest).min? with
      | none => exact Nat.min_eq_right (counted_le rtt)
      | some least => exact Nat.min_comm _ _
    | none => exact ih

theorem maxInFlight_ofBlock (block : List Report) :
    (ofBlock block).maxInFlight = (block.map (·.inFlight)).max?.getD 0 := by
  induction block with
  | nil => rfl
  | cons r rest ih =>
    have seen : (r.seenBy (ofBlock rest)).maxInFlight =
        max (ofBlock rest).maxInFlight r.inFlight := by
      obtain ⟨rtt, inFlight, moment⟩ := r
      cases rtt <;> rfl
    rw [ofBlock_cons, seen, ih, List.map_cons, List.max?_cons]
    cases (rest.map (·.inFlight)).max? with
    | none => exact Nat.zero_max _
    | some most => exact Nat.max_comm _ _

theorem leastRtt?_ofBlock (block : List Report) :
    (ofBlock block).leastRtt? = (roundTrips block).min?.map Span.mk := by
  rw [leastRtt?, least_ofBlock, ← length_roundTrips]
  cases trips : roundTrips block with
  | nil => rfl
  | cons n rest =>
    rw [List.min?_cons]
    exact if_pos (Nat.succ_pos _)

theorem meanRtt?_ofBlock (block : List Report) :
    (ofBlock block).meanRtt? =
      if roundTrips block = [] then none
      else some ⟨min (roundTrips block).sum Word64.largest / (ofBlock block).samples⟩ := by
  rw [meanRtt?, total_ofBlock]
  by_cases unsampled : roundTrips block = []
  · have nothing : (ofBlock block).samples = 0 := roundTrips_eq_nil_iff.mp unsampled
    rw [if_pos unsampled, nothing]
    rfl
  · have sampled : 0 < (ofBlock block).samples :=
      Nat.pos_of_ne_zero (mt roundTrips_eq_nil_iff.mpr unsampled)
    rw [if_neg unsampled, if_pos sampled]
    rfl

/-! ## The least and the mean round trip -/

theorem mean_ne_zero (counted : block.length < Word64.size) :
    (ofBlock block).meanRtt? ≠ some .zero := by
  intro zero
  have word : (ofBlock block).samples ≤ Word64.largest := by
    rw [samples_ofBlock]
    exact Nat.le_trans List.countP_le_length (Nat.le_of_lt_succ counted)
  rw [meanRtt?] at zero
  split at zero
  · rename_i sampled
    have pos := (isSummed_ofBlock block).mean_pos word sampled
    rw [Span.mk.inj (Option.some.inj zero)] at pos
    exact Nat.lt_irrefl 0 pos
  · cases zero

/-- A sum that was not stopped is no less than the least of its parts for each of them. -/
theorem least_le_mean (whole : (roundTrips block).sum < Word64.size)
    (known : (ofBlock block).leastRtt? = some least)
    (reckoned : (ofBlock block).meanRtt? = some mean) : least.nanos ≤ mean.nanos := by
  rw [leastRtt?_ofBlock, Option.map_eq_some_iff] at known
  obtain ⟨n, isLeast, rfl⟩ := known
  rw [meanRtt?_ofBlock] at reckoned
  split at reckoned
  · cases reckoned
  · rename_i sampled
    cases reckoned
    have pos : 0 < (ofBlock block).samples :=
      Nat.pos_of_ne_zero (mt roundTrips_eq_nil_iff.mpr sampled)
    have word : (roundTrips block).sum ≤ Word64.largest := Nat.le_of_lt_succ whole
    have each : ∀ trip ∈ roundTrips block, n ≤ trip := (List.min?_eq_some_iff.mp isLeast).2
    have parts : (roundTrips block).length * n ≤ (roundTrips block).sum :=
      List.card_nsmul_le_sum _ _ each
    rw [length_roundTrips, Nat.mul_comm] at parts
    show n ≤ min (roundTrips block).sum Word64.largest / (ofBlock block).samples
    rw [Nat.min_eq_left word, Nat.le_div_iff_mul_le pos]
    exact parts

/-! ## The whole window -/

/-- The window of a block says what the block holds, in whatever order. It has the number of its
round trips and of its drops, and tells whether there is a drop; the most permits that any report
saw out; the least of the round trips, and the whole part of their mean, reckoned from their sum or
from the largest word if that is less. Without a round trip there is neither. The mean is no less
than one nanosecond, as long as a word can count the reports, and no less than the least round trip,
as long as a word can hold the sum. -/
theorem ofBlock_summarises (block : List Report) :
    let w := ofBlock block
    let trips := roundTrips block
    (w.samples = block.countP (!·.isDrop) ∧ w.drops = block.countP (·.isDrop) ∧
      (w.didDrop = true ↔ ∃ r ∈ block, r.isDrop = true)) ∧
    w.maxInFlight = (block.map (·.inFlight)).max?.getD 0 ∧
    w.leastRtt? = trips.min?.map Span.mk ∧
    w.meanRtt? =
      (if trips = [] then none else some ⟨min trips.sum Word64.largest / w.samples⟩) ∧
    ((w.leastRtt? = none ↔ ∀ r ∈ block, r.isDrop = true) ∧
      (w.meanRtt? = none ↔ ∀ r ∈ block, r.isDrop = true)) ∧
    (∀ other : List Report, other.Perm block → ofBlock other = w) ∧
    (block.length < Word64.size → w.meanRtt? ≠ some .zero) ∧
    (trips.sum < Word64.size → ∀ least mean, w.leastRtt? = some least →
      w.meanRtt? = some mean → least.nanos ≤ mean.nanos) := by
  intro w trips
  have dropped : w.didDrop = true ↔ ∃ r ∈ block, r.isDrop = true := by
    rw [didDrop_ofBlock, List.any_eq_true]
  refine ⟨⟨samples_ofBlock block, drops_ofBlock block, dropped⟩, maxInFlight_ofBlock block,
    leastRtt?_ofBlock block, meanRtt?_ofBlock block, ⟨?_, ?_⟩, ?_, mean_ne_zero, ?_⟩
  · rw [leastRtt?_eq_none_iff, samples_eq_zero_iff]
  · rw [meanRtt?_eq_none_iff, samples_eq_zero_iff]
  · intro other same
    exact ofBlock_perm same
  · intro whole least mean known reckoned
    exact least_le_mean whole known reckoned

/-- A round trip of no time at all, a drop, and a longer round trip, told in two orders. -/
theorem ofBlock_summarises_mixed :
    let instant : Report := ⟨some .zero, 2, 0⟩
    let refused : Report := ⟨none, 7, 5⟩
    let longer : Report := ⟨some ⟨4⟩, 3, 9⟩
    let w := ofBlock [instant, refused, longer]
    w = ⟨1, 5, 2, 1, 7⟩ ∧ w.leastRtt? = some ⟨1⟩ ∧ w.meanRtt? = some ⟨2⟩ ∧
    ofBlock [longer, instant, refused] = w ∧ w.meanRtt? ≠ some .zero ∧
    ∀ least mean, w.leastRtt? = some least → w.meanRtt? = some mean → least.nanos ≤ mean.nanos := by
  intro instant refused longer w
  obtain ⟨_, _, _, _, _, ordered, positive, above⟩ :=
    ofBlock_summarises [instant, refused, longer]
  have turned : [longer, instant, refused].Perm [instant, refused, longer] :=
    (List.perm_append_singleton longer [instant, refused]).symm
  exact ⟨rfl, by decide, by decide, ordered _ turned, positive (by decide), above (by decide)⟩

/-- A sum that was stopped can leave a mean below the least round trip. -/
example :
    let w := ofBlock [⟨some .longest, 1, 0⟩, ⟨some .longest, 2, 0⟩]
    w.leastRtt? = some ⟨18446744073709551615⟩ ∧ w.meanRtt? = some ⟨9223372036854775807⟩ := by
  decide

end Window
end Failover
