import Failover.Config.Settings
import Failover.Limiter.Window

/-! How a limit follows from what was seen under it. The least round trip over the mean one tells
which share of the limit was served at once; the rest of the limit is taken for a queue. A short
queue lets the limit grow by one, a long one or a drop cuts it by a ratio. -/
namespace Failover

/-- The bounds of a limit and what moves it. -/
structure LimitRule where
  minLimit : Nat
  maxLimit : Nat
  alpha : Float
  beta : Float
  ratio : Float

namespace LimitRule

/-- The rule of these settings; the least limit is at least one, the greatest not below it. -/
def ofSettings (s : LimiterSettings) : LimitRule :=
  { minLimit := max s.minLimit.toNat 1
    maxLimit := max s.maxLimit.toNat (max s.minLimit.toNat 1)
    alpha := s.alpha
    beta := s.beta
    ratio := s.backoffRatio }

/-- A limit between the bounds of the rule. -/
def clamp (r : LimitRule) (limit : Nat) : Nat :=
  if limit < r.minLimit then r.minLimit else if r.maxLimit < limit then r.maxLimit else limit

/-- The limit cut by the ratio, and by one at least. -/
def cut (r : LimitRule) (limit : Nat) : Nat :=
  min (Word64.toFloat limit * r.ratio).floor.toUInt64.toNat (limit - 1)

/-- `x` between zero and one. -/
def unitClamp (x : Float) : Float := if x < 0.0 then 0.0 else if 1.0 < x then 1.0 else x

/-- The part of the limit that queued, of a window with a sample. -/
def queue? (limit : Nat) (w : Window) : Option Float := do
  let least ← w.leastRtt?
  let mean ← w.meanRtt?
  some (Word64.toFloat limit * (1.0 - unitClamp (least.seconds / mean.seconds)))

/-- Whether the callers left more than half of the limit unused; the doubled count is a 64-bit
word. -/
def isIdle (limit : Nat) (w : Window) : Bool := Word64.wrap (w.maxInFlight * 2) < limit

/-- The limit that a window asks for, whatever the bounds. -/
def wanted (r : LimitRule) (limit : Nat) (w : Window) : Nat :=
  if w.didDrop then r.cut limit
  else
    match queue? limit w with
    | none => limit
    | some queue =>
      if queue < r.alpha then
        if isIdle limit w then limit else Word64.wrap (limit + 1)
      else if r.beta < queue then r.cut limit
      else limit

/-- The limit after a window. -/
def update (r : LimitRule) (limit : Nat) (w : Window) : Nat := r.clamp (r.wanted limit w)

theorem minLimit_le_maxLimit (s : LimiterSettings) :
    (ofSettings s).minLimit ≤ (ofSettings s).maxLimit := Nat.le_max_right _ _

theorem one_le_minLimit (s : LimiterSettings) : 1 ≤ (ofSettings s).minLimit :=
  Nat.le_max_right _ _

theorem cut_lt {r : LimitRule} {limit : Nat} (h : 0 < limit) : r.cut limit < limit :=
  Nat.lt_of_le_of_lt (Nat.min_le_right _ _) (by omega)

theorem clamp_of_between {r : LimitRule} {limit : Nat} (h₁ : r.minLimit ≤ limit)
    (h₂ : limit ≤ r.maxLimit) : r.clamp limit = limit := by
  simp [clamp, Nat.not_lt.2 h₁, Nat.not_lt.2 h₂]

theorem between_clamp {r : LimitRule} (h : r.minLimit ≤ r.maxLimit) (limit : Nat) :
    r.minLimit ≤ r.clamp limit ∧ r.clamp limit ≤ r.maxLimit := by
  unfold clamp
  split
  · exact ⟨Nat.le_refl _, h⟩
  · split <;> omega

end LimitRule
end Failover
