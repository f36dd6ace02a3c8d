import Failover.Proofs.Call.Step
import Failover.Proofs.Endpoint.Walk
import Mathlib.Data.List.OfFn

/-!
# The budget of a call

A call has two budgets, the retries that its policy allows and the relocations that its walk allows.
The books below tell at every point how much of either is spent: each attempt but the first was paid
for by exactly one of them, and which one is said by the record of the attempt before it. A measure
on the points falls with every step but a vain look for a permit, so that no call goes on for ever.
-/

namespace Failover

/-! ## What an attempt is repeated for -/

/-- Whether an attempt that ended so is made again where it was. -/
def Verdict.isRetryable : Verdict → Bool
  | .transportFailure | .throttled | .admissionRefused => true
  | _ => false

/-- Whether an attempt that ended so is made again elsewhere. -/
def Verdict.isMoving : Verdict → Bool
  | .unavailable | .redirect => true
  | _ => false

/-- Whether the call failed because it could not be moved. -/
def CallFailure.isMoveRefused : CallFailure → Bool
  | .endpoints | .relocations _ => true
  | _ => false

/-- A rule that gives a wait exactly for the retries below `n` is a list of `n` waits. -/
theorem Backoff.exists_fixed {f : Nat → Option Span} {n : Nat}
    (hf : ∀ slot, (f slot).isSome ↔ slot < n) :
    ∃ delays, (fixed delays).slots = n ∧
      ∀ drawn slot, (fixed delays).delay? drawn slot = f slot := by
  refine ⟨List.ofFn fun i : Fin n => (f i).get ((hf i).mpr i.isLt), by simp [slots], ?_⟩
  intro drawn slot
  by_cases h : slot < n
  · simp [delay?, h]
  · have none : f slot = none := by
      cases hs : f slot with
      | none => rfl
      | some d => exact absurd ((hf slot).mp (by simp [hs])) h
    simp [delay?, h, none]

/-- A call that is to be retried goes on after the wait that it is asked for, or else that of its
policy, or has no retry left and fails. -/
theorem Call.retry_pause {c call : Call} {e : Engine} {drawn : Nat} {after : Option Span}
    {exhausted : CallFailure} {phase : Phase} {events : List Event}
    (h : c.retry e drawn after exhausted = (call, phase, events)) :
    (call = c ∧ phase = .failed exhausted) ∨
    ∃ own, c.cursor.policy.delay? drawn c.retries = some own ∧
      call = { c with cursor := { c.cursor with position := c.retries + 1 } } ∧
      phase = .backingOff ((after.map e.bounded).getD own) := by
  unfold retry BackoffCursor.next? at h
  cases own : c.cursor.policy.delay? drawn c.cursor.position with
  | none =>
    rw [own] at h
    cases h
    exact .inl ⟨rfl, rfl⟩
  | some span =>
    rw [own] at h
    cases h
    exact .inr ⟨span, own, rfl, rfl⟩

/-- A call that is to be retried goes on with one retry fewer, or has none left and fails. -/
theorem Call.retry_cases {c call : Call} {e : Engine} {drawn : Nat} {after : Option Span}
    {exhausted : CallFailure} {phase : Phase} {events : List Event}
    (h : c.retry e drawn after exhausted = (call, phase, events)) :
    (call = c ∧ phase = .failed exhausted) ∨
    ∃ cursor delay, call = { c with cursor } ∧ phase = .backingOff delay ∧
      cursor.policy = c.cursor.policy ∧ cursor.position = c.cursor.position + 1 ∧
      c.cursor.position < c.cursor.policy.slots := by
  rcases retry_pause h with ended | ⟨own, given, paid, pause⟩
  · exact .inl ended
  · have left : c.cursor.position < c.cursor.policy.slots :=
      (Backoff.delay?_isSome_iff c.cursor.policy drawn c.cursor.position).mp
        (Option.isSome_iff_exists.mpr ⟨own, given⟩)
    exact .inr ⟨_, _, paid, pause, rfl, rfl, left⟩

/-! ## The books -/

namespace Point

/-- The attempts that a call at this point has begun and not gone on from. -/
def underWay : Point → Nat
  | .entering .init | .entering .attempting | .entering (.backingOff _) | .pausing _ => 0
  | _ => 1

theorem underWay_le (p : Point) : p.underWay ≤ 1 := by
  unfold underWay
  split <;> decide

/-- The failure that a call at this point is about to report or has reported. -/
def failure? : Point → Option CallFailure
  | .entering (.failed failure) | .finished (.error ⟨failure, _, _, _⟩) => some failure
  | _ => none

/-- The attempts that were to be retried and for which no retry was left. -/
def unretried (p : Point) : Nat := if p.failure?.any (·.isRetriesExhausted) then 1 else 0

/-- The attempts that were to be moved on from and have not been, yet or at all. -/
def unmoved : Point → Nat
  | .entering (.relocating _ _) => 1
  | p => if p.failure?.any (·.isMoveRefused) then 1 else 0

end Point

/-- The books of a call with so many attempts under way, not retried and not moved on from. -/
structure Books (e : Engine) (c : Call) (underWay unretried unmoved : Nat) : Prop where
  attempts : c.attempts = c.retries + c.relocations + underWay
  retryable : c.history.countP (·.verdict.isRetryable) = c.retries + unretried
  moving : c.history.countP (·.verdict.isMoving) = c.relocations + unmoved
  policy : c.cursor.policy = e.backoff
  limit : c.selector.limit = e.maxRelocations
  retries_le : c.retries ≤ e.backoff.slots
  relocations_le : c.relocations ≤ e.maxRelocations

/-- What a call has told of itself at its end is what its books say. -/
def CallResult.Tells (r : CallResult) (c : Call) : Prop :=
  match r with
  | .ok success => success.attempts = c.attempts ∧ success.relocations = c.relocations ∧
      success.history = c.history
  | .error error => error.attempts = c.attempts ∧ error.history = c.history

/-- The books of a session are in order. -/
structure Session.Booked {e : Engine} (s : Session e.endpoints) : Prop where
  books : Books e s.call s.point.underWay s.point.unretried s.point.unmoved
  told : ∀ result, s.point = .finished result → CallResult.Tells result s.call

namespace Books

variable {e : Engine} {c : Call}

/-- A record of an attempt under way is of one kind or the other, or of neither. -/
theorem record (h : Books e c 1 0 0) (r : AttemptRecord) :
    Books e (c.record r) 1 (if r.verdict.isRetryable then 1 else 0)
      (if r.verdict.isMoving then 1 else 0) where
  attempts := h.attempts
  retryable := by
    have := h.retryable
    simp only [Call.record, List.countP_append, List.countP_singleton]
    exact congrArg (· + _) this
  moving := by
    have := h.moving
    simp only [Call.record, List.countP_append, List.countP_singleton]
    exact congrArg (· + _) this
  policy := h.policy
  limit := h.limit
  retries_le := h.retries_le
  relocations_le := h.relocations_le

/-- A call that is to be retried either pays with a retry or has none left. -/
theorem retry {drawn : Nat} {after : Option Span} {exhausted : CallFailure} {call : Call}
    {phase : Phase} {events : List Event} (h : Books e c 1 1 0)
    (hx : exhausted.isRetriesExhausted = true) (hm : exhausted.isMoveRefused = false)
    (retried : c.retry e drawn after exhausted = (call, phase, events)) :
    Books e call (Point.entering phase).underWay (Point.entering phase).unretried
      (Point.entering phase).unmoved := by
  rcases Call.retry_cases retried with
    ⟨same, failed⟩ | ⟨cursor, delay, paid, pause, policy, next, left⟩
  · rw [same, failed]
    simpa [Point.underWay, Point.unretried, Point.unmoved, Point.failure?, hx, hm] using h
  · rw [paid, pause]
    have attempts := h.attempts
    have retryable := h.retryable
    rw [h.policy] at left policy
    exact
      { attempts := by
          show c.attempts = cursor.position + c.relocations + 0
          rw [next]
          show c.attempts = c.retries + 1 + c.relocations + 0
          omega
        retryable := by
          show c.history.countP _ = cursor.position + 0
          rw [next]
          exact retryable
        moving := h.moving
        policy := policy
        limit := h.limit
        retries_le := by
          show cursor.position ≤ _
          rw [next]
          exact left
        relocations_le := h.relocations_le }

/-- A call that is moved pays with a relocation. -/
theorem relocate {aim : Relocation} {selection : Selection} {selector : Selector} {path : String}
    (h : Books e c 1 0 1) (moved : c.selector.relocate aim = .ok (selection, selector)) :
    Books e { c with selector, path } 0 0 0 := by
  obtain ⟨room, paid, same⟩ := Selector.relocate_ok moved
  have attempts := h.attempts
  have moving := h.moving
  have limit := h.limit
  exact
    { attempts := by
        show c.attempts = c.retries + selector.relocations + 0
        rw [paid]
        show c.attempts = c.retries + (c.relocations + 1) + 0
        omega
      retryable := h.retryable
      moving := by
        show _ = selector.relocations + 0
        rw [paid]
        exact moving
      policy := h.policy
      limit := by
        show selector.limit = _
        rw [same, limit]
      retries_le := h.retries_le
      relocations_le := by
        show selector.relocations ≤ _
        rw [paid, ← limit]
        exact room }

end Books

namespace Session

variable {e : Engine} {clock : Clock}

theorem Booked.shared {s : Session e.endpoints} (h : s.Booked) (shared : Shared e.endpoints) :
    Booked { s with shared } := ⟨h.books, h.told⟩

/-- A call on its way to a phase has told nothing yet. -/
theorem Booked.toward {s : Session e.endpoints} {call : Call} {phase : Phase}
    (h : Books e call (Point.entering phase).underWay (Point.entering phase).unretried
      (Point.entering phase).unmoved) : (s.toward call phase).Booked :=
  ⟨h, fun _ end_ => nomatch end_⟩

/-- What follows an attempt that is in the history. -/
theorem Booked.follow {drawn : Nat} {s : Session e.endpoints} {outcome : Outcome}
    (h : Books e s.call 1 (if outcome.verdict.isRetryable then 1 else 0)
      (if outcome.verdict.isMoving then 1 else 0)) :
    (follow e drawn s outcome).1.Booked := by
  cases outcome with
  | success response => exact ⟨h, fun _ end_ => nomatch end_⟩
  | transportFailure cause => exact .toward (h.retry rfl rfl rfl)
  | throttled after => exact .toward (h.retry rfl rfl rfl)
  | unavailable after => exact .toward h
  | redirect address => exact .toward h
  | fatal cause response => exact .toward h

theorem Booked.settle {drawn started : Nat} {s t : Session e.endpoints} {url : Url}
    {result : Except TransportError Response} {events : List Event} (h : Books e s.call 1 0 0)
    (settled : settle e clock drawn s url started result = (t, events)) : t.Booked := by
  have ht : t = (Session.settle e clock drawn s url started result).1 := by rw [settled]
  rw [ht]
  exact .follow (h.record _)

/-- A session that asks for a permit has an attempt under way and nothing settled. -/
theorem Asks.books {s a : Session e.endpoints} {url : Url} {front : List Event}
    (asks : Asks s a url front) (h : s.Booked) : Books e a.call 1 0 0 := by
  cases asks with
  | anew stands read =>
    have books := h.books
    rw [stands] at books
    exact { books with attempts := congrArg (· + 1) books.attempts }
  | again stands =>
    have books := h.books
    rw [stands] at books
    exact books

/-- Every step keeps the books. -/
theorem Transition.booked {s t : Session e.endpoints} {events : List Event}
    (row : Transition e clock s t events) (h : s.Booked) : t.Booked := by
  have books := h.books
  cases row with
  | begins stands =>
    rw [stands] at books
    exact .toward books
  | unreadable stands bad =>
    rw [stands] at books
    exact .toward { books with attempts := congrArg (· + 1) books.attempts }
  | waits asks answer => exact ⟨asks.books h, fun _ end_ => nomatch end_⟩
  | refused asks answer retried =>
    exact .toward (((asks.books h).record _).retry rfl rfl retried)
  | sends asks answer built => exact ⟨asks.books h, fun _ end_ => nomatch end_⟩
  | @unsendable a _ _ _ _ _ c _ _ asks answer bad settled =>
    have asked : Books e (a.withLimiter c).call 1 0 0 := asks.books h
    exact .settle asked settled
  | hears stands settled =>
    rw [stands] at books
    exact .settle books settled
  | relocates stands moved =>
    rw [stands] at books
    exact ⟨books.relocate moved, fun _ end_ => nomatch end_⟩
  | @stranded aim delay error stands stuck =>
    rw [stands] at books
    cases error <;> exact .toward books
  | backsOff stands =>
    rw [stands] at books
    exact ⟨books, fun _ end_ => nomatch end_⟩
  | resumes stands due =>
    rw [stands] at books
    exact ⟨books, fun _ end_ => nomatch end_⟩
  | succeeds stands =>
    rw [stands] at books
    refine ⟨books, ?_⟩
    rintro _ ⟨⟩
    exact ⟨rfl, rfl, rfl⟩
  | fails stands =>
    rw [stands] at books
    refine ⟨books, ?_⟩
    rintro _ ⟨⟩
    exact ⟨rfl, rfl⟩

/-- A call begins with nothing spent. -/
theorem start_booked (e : Engine) (clock : Clock) (shared : Shared e.endpoints)
    (o : CallOptions) : (start e clock shared o).1.Booked where
  books :=
    { attempts := rfl
      retryable := rfl
      moving := rfl
      policy := rfl
      limit := rfl
      retries_le := Nat.zero_le _
      relocations_le := Nat.zero_le _ }
  told := fun _ end_ => nomatch end_

theorem Reaches.booked {s t : Session e.endpoints} (h : Reaches e s t) (hs : s.Booked) :
    t.Booked := by
  induction h with
  | refl => exact hs
  | tail _ onward ih =>
    obtain ⟨clock, shared, events, step⟩ := onward
    exact step.transition.booked (ih.shared shared)

/-! ## The measure -/

/-- How far a call may still have to go. -/
def rank (s : Session e.endpoints) : Nat := distance s.call s.point

/-- A retry brings a call nearer to its end than the attempt that it follows. -/
theorem distance_retry {c call : Call} {drawn : Nat} {after : Option Span}
    {exhausted : CallFailure} {phase : Phase} {events : List Event}
    (h : c.retry e drawn after exhausted = (call, phase, events)) :
    distance call (.entering phase) < 8 * c.budget + 3 := by
  rcases Call.retry_cases h with
    ⟨same, failed⟩ | ⟨cursor, delay, paid, pause, policy, next, left⟩
  · rw [same, failed]
    show 8 * c.budget + 1 < _
    omega
  · rw [paid, pause]
    -- a pause stands farther from the end than the exchange, but one retry less outweighs it
    have fewer : cursor.remaining + 1 = c.cursor.remaining := by
      rw [BackoffCursor.remaining, BackoffCursor.remaining, policy, next]
      omega
    show 8 * (cursor.remaining + (c.selector.limit - c.selector.relocations)) + 7 <
      8 * (c.cursor.remaining + (c.selector.limit - c.selector.relocations)) + 3
    omega

theorem rank_follow (drawn : Nat) (s : Session e.endpoints) (outcome : Outcome) :
    (follow e drawn s outcome).1.rank < 8 * s.call.budget + 3 := by
  cases outcome with
  | success response =>
    show 8 * s.call.budget + 1 < _
    omega
  | transportFailure cause => exact distance_retry rfl
  | throttled after => exact distance_retry rfl
  | unavailable after =>
    show 8 * s.call.budget + 2 < _
    omega
  | redirect address =>
    show 8 * s.call.budget + 2 < _
    omega
  | fatal cause response =>
    show 8 * s.call.budget + 1 < _
    omega

theorem rank_settle {drawn started : Nat} {s t : Session e.endpoints} {url : Url}
    {result : Except TransportError Response} {events : List Event}
    (settled : settle e clock drawn s url started result = (t, events)) :
    t.rank < 8 * s.call.budget + 3 := by
  have ht : t = (Session.settle e clock drawn s url started result).1 := by rw [settled]
  rw [ht]
  exact rank_follow drawn _ _

/-- Asking for a permit, anew or again, is farther from the end than to have an answer. -/
theorem Asks.rank_gt {s a : Session e.endpoints} {url : Url} {front : List Event}
    (asks : Asks s a url front) : 8 * a.call.budget + 3 < s.rank := by
  cases asks with
  | anew stands read =>
    rw [rank, stands]
    show 8 * s.call.budget + 3 < 8 * s.call.budget + 5
    omega
  | again stands =>
    rw [rank, stands]
    show 8 * s.call.budget + 3 < 8 * s.call.budget + 4
    omega

/-- Every step brings a call nearer to its end, unless it waits for a permit and waits on. -/
theorem Transition.rank_lt {s t : Session e.endpoints} {events : List Event}
    (row : Transition e clock s t events) :
    t.rank < s.rank ∨ s.IsWaiting ∧ t.IsWaiting ∧ t.rank = s.rank := by
  cases row with
  | begins stands =>
    left
    rw [rank, rank, stands]
    show 8 * s.call.budget + 5 < 8 * s.call.budget + 6
    omega
  | unreadable stands bad =>
    left
    rw [rank, rank, stands]
    show 8 * s.call.budget + 1 < 8 * s.call.budget + 5
    omega
  | waits asks answer =>
    cases asks with
    | anew stands read =>
      left
      rw [rank, rank, stands]
      show 8 * s.call.budget + 4 < 8 * s.call.budget + 5
      omega
    | again stands =>
      right
      refine ⟨⟨_, _, stands⟩, ⟨_, _, rfl⟩, ?_⟩
      rw [rank, rank, stands]
      rfl
  | refused asks answer retried => exact .inl ((distance_retry retried).trans asks.rank_gt)
  | sends asks answer built => exact .inl asks.rank_gt
  | unsendable asks answer bad settled => exact .inl ((rank_settle settled).trans asks.rank_gt)
  | hears stands settled =>
    left
    rw [rank.eq_def s, stands]
    exact rank_settle settled
  | @relocates aim delay selection selector stands moved =>
    left
    -- there was room for the move, so that the difference of limit and moves falls
    obtain ⟨room, paid, same⟩ := Selector.relocate_ok moved
    rw [rank, rank, stands]
    show 8 * (s.call.cursor.remaining + (selector.limit - selector.relocations)) + 6 <
      8 * (s.call.cursor.remaining + (s.call.selector.limit - s.call.selector.relocations)) + 2
    rw [paid, same]
    omega
  | stranded stands stuck =>
    left
    rw [rank, rank, stands]
    show 8 * s.call.budget + 1 < 8 * s.call.budget + 2
    omega
  | backsOff stands =>
    left
    rw [rank, rank, stands]
    show 8 * s.call.budget + 6 < 8 * s.call.budget + 7
    omega
  | resumes stands due =>
    left
    rw [rank, rank, stands]
    show 8 * s.call.budget + 5 < 8 * s.call.budget + 6
    omega
  | succeeds stands =>
    left
    rw [rank, rank, stands]
    show 0 < 8 * s.call.budget + 1
    omega
  | fails stands =>
    left
    rw [rank, rank, stands]
    show 0 < 8 * s.call.budget + 1
    omega

theorem Onward.rank_lt {s t : Session e.endpoints} (h : Onward e s t) :
    t.rank < s.rank ∨ s.IsWaiting ∧ t.IsWaiting ∧ t.rank = s.rank := by
  obtain ⟨clock, shared, events, step⟩ := h
  exact step.transition.rank_lt

/-- A call that has not ended can always go on. -/
theorem exists_onward {s : Session e.endpoints} (h : ¬s.IsFinished) : ∃ t, Onward e s t := by
  cases hp : s.point with
  | entering phase => exact ⟨_, ⟨0, 0⟩, s.shared, _, .enter 0 hp⟩
  | waiting url signals => exact ⟨_, ⟨0, 0⟩, s.shared, _, .ask 0 hp⟩
  | exchanging url started request =>
    exact ⟨_, ⟨0, 0⟩, s.shared, _, .hear 0 (.error (.timeout e.attemptTimeout)) hp⟩
  | pausing moment => exact ⟨_, ⟨0, moment⟩, s.shared, _, .resume hp (Nat.le_refl moment)⟩
  | finished result => exact absurd ⟨result, hp⟩ h

/-- A run of a call that never ends waits for a permit from some moment on. -/
theorem waits_forever {run : Nat → Session e.endpoints}
    (goes : ∀ n, Onward e (run n) (run (n + 1))) : ∃ n, ∀ m, n ≤ m → (run m).IsWaiting := by
  have falls : Antitone fun n => (run n).rank := by
    refine antitone_nat_of_succ_le fun n => ?_
    rcases (goes n).rank_lt with less | ⟨_, _, same⟩
    · exact less.le
    · exact same.le
  -- the induction is on the rank from which a tail of the run falls
  have tail : ∀ k n, (run n).rank ≤ k → ∃ n, ∀ m, n ≤ m → (run m).IsWaiting := by
    intro k
    induction k with
    | zero =>
      intro n hn
      refine ⟨n, fun m hm => ?_⟩
      rcases (goes m).rank_lt with less | ⟨waiting, _, _⟩
      · have := falls hm
        simp only at this
        omega
      · exact waiting
    | succ k ih =>
      intro n hn
      by_cases always : ∀ m, n ≤ m → (run m).IsWaiting
      · exact ⟨n, always⟩
      · push Not at always
        obtain ⟨m, hm, stirs⟩ := always
        rcases (goes m).rank_lt with less | ⟨waiting, _, _⟩
        · refine ih (m + 1) ?_
          have := falls hm
          simp only at this
          omega
        · exact absurd waiting stirs
  exact tail _ 0 (Nat.le_refl _)

/-! ## The main result -/

/-- Every call of an engine ends, unless it waits for a permit for ever, whatever servers, limiters
and other calls do, and cannot get stuck on the way. At each point of it the retries and the
relocations that were made are paid for by attempts that ended so as to ask for them, either kind
by its own, and both stay below their bounds. At its end every attempt but the first is accounted
for by one of them. -/
theorem call_ends (e : Engine) (clock : Clock) (shared : Shared e.endpoints) (o : CallOptions) :
    let first := (start e clock shared o).1
    (∀ drawn slot, (e.backoff.delay? drawn slot).isSome ↔ slot < e.backoff.slots) ∧
    (∀ t, Reaches e first t → t.IsFinished ∨ ∃ u, Onward e t u) ∧
    (∀ run : Nat → Session e.endpoints, run 0 = first →
      (∀ n, Onward e (run n) (run (n + 1)) ∨ (run n).IsFinished ∧ run (n + 1) = run n) →
      (∃ n, (run n).IsFinished) ∨ ∃ n, ∀ m, n ≤ m → (run m).IsWaiting) ∧
    ∀ t, Reaches e first t →
      t.call.retries ≤ e.backoff.slots ∧ t.call.relocations ≤ e.maxRelocations ∧
      t.call.attempts ≤ 1 + e.backoff.slots + e.maxRelocations ∧
      t.call.history.countP (·.verdict.isRetryable) = t.call.retries + t.point.unretried ∧
      t.call.history.countP (·.verdict.isMoving) = t.call.relocations + t.point.unmoved ∧
      ∀ result, t.point = .finished result →
        t.call.attempts = 1 + t.call.retries + t.call.relocations ∧ result.Tells t.call := by
  intro first
  refine ⟨e.backoff.delay?_isSome_iff, ?_, ?_, ?_⟩
  · intro t _
    by_cases ended : t.IsFinished
    · exact .inl ended
    · exact .inr (exists_onward ended)
  · intro run _ goes
    by_cases ends : ∃ n, (run n).IsFinished
    · exact .inl ends
    · right
      refine waits_forever fun n => (goes n).resolve_right ?_
      rintro ⟨ended, _⟩
      exact ends ⟨n, ended⟩
  · intro t reached
    have booked := reached.booked (start_booked e clock shared o)
    have books := booked.books
    have attempts := books.attempts
    have retries := books.retries_le
    have relocations := books.relocations_le
    have one : t.point.underWay ≤ 1 := t.point.underWay_le
    refine ⟨retries, relocations, by omega, books.retryable, books.moving, ?_⟩
    intro result ended
    refine ⟨?_, booked.told result ended⟩
    rw [ended] at attempts
    change t.call.attempts = t.call.retries + t.call.relocations + 1 at attempts
    omega

end Session
end Failover
