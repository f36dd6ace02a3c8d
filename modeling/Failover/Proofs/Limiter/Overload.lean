import Failover.Proofs.Limiter.Envelope
import Failover.Proofs.Limiter.Lending

/-!
# Overload

A server that answers nothing gives a limiter no round trips to learn from, only drops. Such a
limiter does not wait until its window is full or due: the first drop closes the window, and every
further one closes another. Each of them cuts the limit, down to the least one.
-/

namespace Failover

/-! ## One limiter -/

namespace Controller

variable {s : LimiterSettings} {c : Controller}

/-- A limiter that learns by these settings and has not fallen below its least limit. -/
structure IsRuled (s : LimiterSettings) (c : Controller) : Prop where
  learning : c.learning = some (.ofSettings s)
  least : (LimitRule.ofSettings s).minLimit ≤ c.limit

theorem adaptive_isRuled (name : String) (s : LimiterSettings) (clock : Clock) :
    (adaptive name s clock).1.IsRuled s where
  learning := rfl
  least := (LimitRule.between_clamp (LimitRule.minLimit_le_maxLimit s) _).1

theorem IsRuled.release (h : c.IsRuled s) (clock : Clock) (completion : Completion) :
    (c.release clock completion).1.IsRuled s := by
  obtain ⟨_, _, learning, _⟩ := c.release_cases clock completion
  refine ⟨learning.trans h.learning, ?_⟩
  rcases limit_release h.learning clock completion with same | ⟨within, _⟩
  · exact Nat.le_trans h.least (Nat.le_of_eq same.symm)
  · exact within

/-- A drop raises no limit. -/
theorem IsRuled.release_dropped_le (h : c.IsRuled s) (clock : Clock) :
    (c.release clock .dropped).1.limit ≤ c.limit := by
  rcases release_dropped h.learning clock with ⟨set, _⟩ | ⟨_, same, _⟩
  · rw [set]
    exact LimitRule.update_le_of_drop _ (decide_eq_true (Nat.succ_pos _)) h.least
  · exact Nat.le_of_eq same

/-- A drop without a sample before it empties the window, and cuts a limit above the least one. -/
theorem IsRuled.release_dropped_unsampled (h : c.IsRuled s) (unsampled : c.window.samples = 0)
    (clock : Clock) :
    ((LimitRule.ofSettings s).minLimit < c.limit → (c.release clock .dropped).1.limit < c.limit) ∧
    (c.release clock .dropped).1.window = .empty := by
  rcases release_dropped h.learning clock with ⟨set, empty⟩ | ⟨sampled, _⟩
  · refine ⟨fun above => ?_, empty⟩
    rw [set]
    exact LimitRule.update_lt_of_drop _ (decide_eq_true (Nat.succ_pos _)) above
  · exact absurd unsampled sampled

end Controller

/-! ## Turns -/

namespace Turn

variable {s : LimiterSettings} {turn : Turn} {c d : Controller} {clock later : Clock}

def isDrop : Turn → Bool
  | .release .dropped => true
  | _ => false

def isSuccess : Turn → Bool
  | .release (.success _) => true
  | _ => false

theorem take?_isRuled (took : turn.take? c clock = some (d, later)) (h : c.IsRuled s) :
    d.IsRuled s := by
  rcases take?_cases took with ⟨_, _, rfl, _⟩ | ⟨completion, _, _, rfl, _⟩ | ⟨_, _, rfl, _⟩
  · exact ⟨h.learning, h.least⟩
  · exact h.release clock completion
  · exact h

theorem takeAll?_isRuled {turns : List Turn} (taken : takeAll? turns c clock = some (d, later))
    (h : c.IsRuled s) : d.IsRuled s := by
  induction turns generalizing c clock with
  | nil =>
    cases taken
    exact h
  | cons turn rest ih =>
    obtain ⟨⟨next, now⟩, took, taken⟩ := Option.bind_eq_some_iff.mp taken
    exact ih taken (take?_isRuled took h)

/-- How far drops bring a limiter down: the limit does not rise, and if the window held no sample it
still holds none, and each drop has taken one from the limit until that was the least one. -/
structure Falls (s : LimiterSettings) (c : Controller) (drops : Nat) (d : Controller) : Prop where
  limit_le : d.limit ≤ c.limit
  unsampled : c.window.samples = 0 → d.window.samples = 0
  drops_le : c.window.samples = 0 →
    d.limit + min drops (c.limit - (LimitRule.ofSettings s).minLimit) ≤ c.limit

theorem Falls.refl (s : LimiterSettings) (c : Controller) : Falls s c 0 c where
  limit_le := Nat.le_refl _
  unsampled := id
  drops_le _ := by omega

theorem Falls.trans {e : Controller} {m n : Nat}
    (least : (LimitRule.ofSettings s).minLimit ≤ d.limit) (first : Falls s c m d)
    (second : Falls s d n e) : Falls s c (m + n) e where
  limit_le := Nat.le_trans second.limit_le first.limit_le
  unsampled unsampled := second.unsampled (first.unsampled unsampled)
  drops_le unsampled := by
    have before := first.drops_le unsampled
    have after := second.drops_le (first.unsampled unsampled)
    omega

/-- A turn that is no success: only a drop tells the limiter anything. -/
theorem take?_falls (took : turn.take? c clock = some (d, later)) (h : c.IsRuled s)
    (quiet : turn.isSuccess = false) : Falls s c ([turn].countP isDrop) d := by
  have still : d.limit = c.limit → d.window = c.window → Falls s c 0 d := fun limit window =>
    ⟨Nat.le_of_eq limit, fun unsampled => by rw [window, unsampled], fun _ => by omega⟩
  rcases take?_cases took with ⟨rfl, _, rfl, _⟩ | ⟨completion, rfl, _, rfl, _⟩ | ⟨_, rfl, rfl, _⟩
  · exact still rfl rfl
  · cases completion with
    | success rtt => cases quiet
    | ignored => exact still rfl rfl
    | dropped =>
      refine ⟨h.release_dropped_le clock, fun unsampled => ?_, fun unsampled => ?_⟩
      · rw [(h.release_dropped_unsampled unsampled clock).2]
        rfl
      · have cuts := (h.release_dropped_unsampled unsampled clock).1
        have below := h.release_dropped_le clock
        show _ + min 1 _ ≤ _
        by_cases above : (LimitRule.ofSettings s).minLimit < c.limit
        · have := cuts above
          omega
        · omega
  · exact still rfl rfl

theorem takeAll?_falls {turns : List Turn} (taken : takeAll? turns c clock = some (d, later))
    (h : c.IsRuled s) (quiet : ∀ turn ∈ turns, turn.isSuccess = false) :
    Falls s c (turns.countP isDrop) d := by
  induction turns generalizing c clock with
  | nil =>
    cases taken
    exact .refl s _
  | cons turn rest ih =>
    obtain ⟨⟨next, now⟩, took, taken⟩ := Option.bind_eq_some_iff.mp taken
    have ruled := take?_isRuled took h
    have first := take?_falls took h (quiet turn List.mem_cons_self)
    have others := ih taken ruled fun t ht => quiet t (List.mem_cons_of_mem turn ht)
    have counted : (turn :: rest).countP isDrop = [turn].countP isDrop + rest.countP isDrop := by
      rw [← List.countP_append]
      rfl
    rw [counted]
    exact first.trans ruled.least others

/-- Overload cuts the limit at once. Whatever turns a limiter has taken, while its window holds no
sample a drop lowers a limit above the least one and leaves the least one as it is, at any moment
and with any number of permits out, and the window is empty afterwards. So over any further turns
without a success each drop takes one from the limit at least, until that is the least one; and
wherever such turns begin, they never raise it. -/
theorem overload_cuts {name : String} {turns : List Turn}
    (taken : takeAll? turns (Controller.adaptive name s clock).1 clock = some (c, later)) :
    let least := (LimitRule.ofSettings s).minLimit
    least ≤ c.limit ∧
    (c.window.samples = 0 → ∀ moment,
      let d := (c.release moment .dropped).1
      (least < c.limit → d.limit < c.limit) ∧ (c.limit = least → d.limit = least) ∧
      d.window = .empty) ∧
    ∀ more d last, takeAll? more c later = some (d, last) →
      (∀ turn ∈ more, turn.isSuccess = false) →
      d.limit ≤ c.limit ∧
      (c.window.samples = 0 →
        d.limit + min (more.countP isDrop) (c.limit - least) ≤ c.limit) := by
  intro least
  have ruled : c.IsRuled s := takeAll?_isRuled taken (Controller.adaptive_isRuled name s clock)
  refine ⟨ruled.least, ?_, ?_⟩
  · intro unsampled moment d
    obtain ⟨cuts, empty⟩ := ruled.release_dropped_unsampled unsampled moment
    refine ⟨cuts, fun lowest => ?_, empty⟩
    have below : d.limit ≤ c.limit := ruled.release_dropped_le moment
    have above : least ≤ d.limit := (ruled.release moment .dropped).least
    omega
  · intro more d last taken' quiet
    have falls := takeAll?_falls taken' ruled quiet
    exact ⟨falls.limit_le, falls.drops_le⟩

/-- Three drops one after another, the window not due and far from full, take three from the first
limit. -/
theorem overload_cuts_three :
    let before : List Turn := [.grant, .grant, .grant]
    let drops : List Turn := [.release .dropped, .release .dropped, .release .dropped]
    ∃ c d, takeAll? before (Controller.adaptive "orders" {} ⟨0, 0⟩).1 ⟨0, 0⟩ = some (c, ⟨0, 0⟩) ∧
      takeAll? drops c ⟨0, 0⟩ = some (d, ⟨0, 0⟩) ∧
      c.limit = 10 ∧ (c.release ⟨0, 0⟩ .dropped).1.limit < 10 ∧ d.limit ≤ 7 := by
  intro before drops
  refine ⟨_, _, rfl, rfl, rfl, ?_⟩
  obtain ⟨_, cuts, falls⟩ := @overload_cuts {} _ ⟨0, 0⟩ ⟨0, 0⟩ "orders" before rfl
  obtain ⟨_, fallen⟩ := falls drops _ _ rfl (by decide)
  exact ⟨(cuts rfl ⟨0, 0⟩).1 (by decide), Nat.le_of_add_le_add_right (fallen rfl)⟩

end Turn
end Failover
