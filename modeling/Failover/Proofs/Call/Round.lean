import Failover.Proofs.Call.Story
import Mathlib.Data.List.Dedup
import Mathlib.Data.List.Induction
import Mathlib.Data.List.Perm.Subperm

/-!
# Once round the endpoints

A call that no server redirects goes from each endpoint to the one after it, and only when the
endpoint turns it away. So the records say where each attempt was made: as far behind the endpoint
where the call began as there are records before it that turned the call away. The call goes on
until the ring or its relocations are used up, whichever comes first.
-/

namespace Failover

/-! ## Turns -/

/-- How often the first `j` attempts on record turned their call away to another endpoint. -/
def turns (history : List AttemptRecord) (j : Nat) : Nat :=
  (history.take j).countP (·.verdict == .unavailable)

section turns

variable {history : List AttemptRecord} {i j : Nat}

theorem turns_mono (history : List AttemptRecord) (h : i ≤ j) :
    turns history i ≤ turns history j :=
  ((List.take_prefix_take_left h).sublist).countP_le

/-- A later record changes nothing for the attempts before it. -/
theorem turns_append (later : List AttemptRecord) (h : j ≤ history.length) :
    turns (history ++ later) j = turns history j := by
  rw [turns, List.take_append_of_le_length h, turns]

theorem turns_length (history : List AttemptRecord) :
    turns history history.length = history.countP (·.verdict == .unavailable) := by
  rw [turns, List.take_length]

/-- An attempt that turned its call away is counted for those after it. -/
theorem turns_succ {r : AttemptRecord} (at' : history[j]? = some r) :
    turns history (j + 1) = turns history j + if r.verdict = .unavailable then 1 else 0 := by
  rw [turns, List.take_add_one, at', Option.toList_some, List.countP_append, List.countP_singleton,
    turns]
  simp only [beq_iff_eq]

/-- The turns are taken one after the other, so that there is one after `n` others exactly if there
are more than `n`. -/
theorem exists_turn_iff (history : List AttemptRecord) (n : Nat) :
    (∃ (j : Nat) (r : AttemptRecord), history[j]? = some r ∧ r.verdict = .unavailable ∧
      turns history j = n) ↔ n < turns history history.length := by
  constructor
  · rintro ⟨j, r, at', turned, rfl⟩
    have next := turns_succ at'
    rw [if_pos turned] at next
    have inside : j + 1 ≤ history.length := (List.getElem?_eq_some_iff.mp at').1
    have := turns_mono history inside
    omega
  · induction history using List.reverseRecOn with
    | nil => exact nofun
    | append_singleton history r ih =>
      intro more
      have last : (history ++ [r])[history.length]? = some r := List.getElem?_concat_length
      have next := turns_succ last
      rw [turns_append [r] (Nat.le_refl _)] at next
      rw [List.length_append, List.length_singleton, next] at more
      by_cases early : n < turns history history.length
      · obtain ⟨j, r', at', turned, count⟩ := ih early
        have inside := (List.getElem?_eq_some_iff.mp at').1
        exact ⟨j, r', by rw [List.getElem?_append_left inside, at'], turned,
          by rw [turns_append [r] (Nat.le_of_lt inside), count]⟩
      · split at more
        · rename_i turned
          exact ⟨history.length, r, last, turned,
            by rw [turns_append [r] (Nat.le_refl _)]; omega⟩
        · omega

/-- Where every attempt turned its call away, there are as many turns as attempts. -/
theorem turns_of_all (all : ∀ r ∈ history, r.verdict = .unavailable) (h : j ≤ history.length) :
    turns history j = j := by
  have counted : (history.take j).countP (·.verdict == .unavailable) = (history.take j).length :=
    List.countP_eq_length.mpr fun r among => beq_iff_eq.mpr (all r (List.mem_of_mem_take among))
  rw [turns, counted, List.length_take, Nat.min_eq_left h]

end turns

/-! ## Calls that are not redirected -/

namespace Call

/-- No attempt so far was redirected. -/
def IsDirect (c : Call) : Prop := ∀ r ∈ c.history, r.verdict ≠ .redirect

/-- A call that was never redirected was moved on from an attempt exactly if that turned it away. -/
theorem IsDirect.countP_isMoving {c : Call} (h : c.IsDirect) :
    c.history.countP (·.verdict.isMoving) = turns c.history c.history.length := by
  rw [turns_length]
  refine List.countP_congr fun r among => ?_
  have direct := h r among
  cases hv : r.verdict <;> simp_all [Verdict.isMoving]

/-- What is kept of a call while it is not redirected: it asks for the path it asked for first, its
walk is on its round from `origin`, and the attempts were made where the turns before them led. -/
structure Rounds (c : Call) (origin : Nat) (path : String) (tried : List Nat) : Prop where
  walk : c.selector.OnRound origin
  path : c.path = path
  tried : tried = (List.range c.attempts).map fun j =>
    (origin + turns c.history j) % c.selector.set.size
  turns_le : ∀ j < c.attempts, turns c.history j ≤ c.relocations

namespace Rounds

variable {c : Call} {origin : Nat} {path : String} {tried : List Nat}

/-- The next attempt is made as far round as the call was turned away before it. -/
theorem attempt (h : c.Rounds origin path tried) (recorded : c.Recorded 0)
    (turned : turns c.history c.history.length = c.relocations) :
    c.tried.Rounds origin path (tried ++ [c.selector.current]) where
  walk := h.walk
  path := h.path
  tried := by
    have attempts : c.history.length = c.attempts := recorded.attempts
    show _ = (List.range (c.attempts + 1)).map fun j =>
      (origin + turns c.history j) % c.selector.set.size
    rw [List.range_succ, List.map_append, List.map_singleton, ← h.tried, h.walk.current,
      ← attempts, turned]
    rfl
  turns_le := by
    intro j hj
    have attempts : c.history.length = c.attempts := recorded.attempts
    have last : j ≤ c.history.length := by
      change j < c.attempts + 1 at hj
      omega
    exact turned ▸ turns_mono c.history last

/-- The record of an attempt does not say where that attempt was made. -/
theorem record (h : c.Rounds origin path tried) (recorded : c.Recorded 1) (r : AttemptRecord) :
    (c.record r).Rounds origin path tried := by
  have before : ∀ j < c.attempts, turns (c.history ++ [r]) j = turns c.history j := by
    intro j hj
    have := recorded.attempts
    exact turns_append [r] (by omega)
  refine ⟨h.walk, h.path, ?_, fun j hj => (before j hj).trans_le (h.turns_le j hj)⟩
  rw [h.tried]
  refine List.map_congr_left fun j among => ?_
  show _ = (origin + turns (c.history ++ [r]) j) % c.selector.set.size
  rw [before j (List.mem_range.mp among)]

theorem retry {e : Engine} {call : Call} {drawn : Nat} {after : Option Span}
    {exhausted : CallFailure} {phase : Phase} {events : List Event}
    (h : c.Rounds origin path tried)
    (retried : c.retry e drawn after exhausted = (call, phase, events)) :
    call.Rounds origin path tried := by
  rcases retry_cases retried with ⟨same, _⟩ | ⟨cursor, delay, paid, _⟩
  · rw [same]
    exact h
  · rw [paid]
    exact ⟨h.walk, h.path, h.tried, h.turns_le⟩

/-- A call that is turned away goes to the endpoint after the one where it stands. -/
theorem relocate {selection : Selection} {selector : Selector} (h : c.Rounds origin path tried)
    (moved : c.selector.relocate .next = .ok (selection, selector)) :
    { c with selector, path := selection.path.getD c.path }.Rounds origin path tried := by
  have move := Selector.relocate_move moved
  have same : selector.set = c.selector.set ∧ selector.relocations = c.selector.relocations + 1 ∧
      selection.path = none := by
    cases move
    exact ⟨rfl, rfl, rfl⟩
  obtain ⟨set, paid, stays⟩ := same
  refine ⟨h.walk.move move, ?_, ?_, fun j hj => ?_⟩
  · rw [stays]
    exact h.path
  · rw [h.tried, set]
  · have := h.turns_le j hj
    show turns c.history j ≤ selector.relocations
    rw [paid]
    exact Nat.le_succ_of_le this

/-- The attempts of a call are at most so many turns apart as its walk has moved, which is less than
a round. -/
theorem turns_lt (h : c.Rounds origin path tried) {j : Nat} (hj : j < c.attempts) :
    turns c.history j < c.selector.set.size := (h.turns_le j hj).trans_lt h.walk.short

theorem getElem?_eq_some_iff (h : c.Rounds origin path tried) {j x : Nat} :
    tried[j]? = some x ↔
      j < c.attempts ∧ (origin + turns c.history j) % c.selector.set.size = x := by
  rw [h.tried, List.getElem?_map, Option.map_eq_some_iff]
  constructor
  · rintro ⟨i, at', place⟩
    obtain ⟨inside, rfl⟩ := List.getElem?_eq_some_iff.mp at'
    rw [List.getElem_range] at place
    exact ⟨by rwa [List.length_range] at inside, place⟩
  · rintro ⟨inside, place⟩
    exact ⟨j, List.getElem?_range inside, place⟩

/-- An endpoint that was left is not tried again: between two attempts at one endpoint there are
only attempts at it. -/
theorem block (h : c.Rounds origin path tried) {i j m x : Nat} (hij : i ≤ j) (hjm : j ≤ m)
    (hi : tried[i]? = some x) (hm : tried[m]? = some x) : tried[j]? = some x := by
  obtain ⟨_, first⟩ := h.getElem?_eq_some_iff.mp hi
  obtain ⟨inside, last⟩ := h.getElem?_eq_some_iff.mp hm
  have same : turns c.history i = turns c.history m :=
    (Selector.turn_inj (h.turns_lt (by omega)) (h.turns_lt inside)).mp (first.trans last.symm)
  have between : turns c.history j = turns c.history m := by
    have := turns_mono c.history hij
    have := turns_mono c.history hjm
    omega
  exact h.getElem?_eq_some_iff.mpr ⟨by omega, between ▸ last⟩

/-- There are at most as many endpoints as turns that the attempts can be apart. -/
theorem dedup_length_le (h : c.Rounds origin path tried) {n : Nat}
    (few : ∀ j < c.attempts, turns c.history j < n) : tried.dedup.length ≤ n := by
  have within : tried.dedup ⊆ (List.range n).map fun d => (origin + d) % c.selector.set.size := by
    intro x among
    obtain ⟨j, at'⟩ := List.mem_iff_getElem?.mp (List.mem_dedup.mp among)
    obtain ⟨inside, rfl⟩ := h.getElem?_eq_some_iff.mp at'
    exact List.mem_map.mpr ⟨_, List.mem_range.mpr (few j inside), rfl⟩
  have few := (List.Nodup.subperm (List.nodup_dedup tried) within).length_le
  rwa [List.length_map, List.length_range] at few

/-- The call asks an endpoint of the set, and for the path that it asked for first. -/
theorem endpoint_mem (h : c.Rounds origin path tried) (standing : c.selector.IsStanding) :
    c.endpoint ∈ c.selector.set.urls ∧ c.path = path := by
  have here := standing.url?_current
  rw [Selector.url?, List.getElem?_append_left h.walk.current_lt] at here
  exact ⟨List.mem_of_getElem? here, h.path⟩

end Rounds
end Call

namespace Session

variable {e : Engine} {clock : Clock} {s t a : Session e.endpoints} {tried : List Nat}
  {origin : Nat} {path : String}

/-- Before an attempt the turns that the records tell of have been taken. -/
theorem Chronicle.turns_eq (h : s.Chronicle tried) (direct : s.call.IsDirect) :
    turns s.call.history s.call.history.length = s.call.relocations + s.point.unmoved := by
  rw [← direct.countP_isMoving, h.booked.books.moving]

theorem Chronicle.attempt (h : s.Chronicle tried) (stands : s.point = .entering .attempting)
    (direct : s.call.IsDirect) (rounds : s.call.Rounds origin path tried) :
    s.call.tried.Rounds origin path (tried ++ s.begins) := by
  have story := h.story
  have turned := h.turns_eq direct
  rw [stands] at story turned
  rw [begins, stands]
  exact rounds.attempt story.1 turned

/-- A session that asks for a permit has begun its attempt on the round. -/
theorem Asks.rounds {url : Url} {front : List Event} (asks : Asks s a url front)
    (h : s.Chronicle tried) (direct : s.call.IsDirect) (rounds : s.call.Rounds origin path tried) :
    a.call.Rounds origin path (tried ++ s.begins) := by
  cases asks with
  | anew stands read => exact h.attempt stands direct rounds
  | again stands =>
    rw [begins, stands, List.append_nil]
    exact rounds

theorem follow_rounds {drawn : Nat} {outcome : Outcome} (h : s.call.Rounds origin path tried) :
    (follow e drawn s outcome).1.call.Rounds origin path tried := by
  cases outcome with
  | transportFailure cause => exact h.retry rfl
  | throttled after => exact h.retry rfl
  | _ => exact h

theorem settle_rounds {drawn started : Nat} {url : Url}
    {result : Except TransportError Response} {events : List Event}
    (settled : settle e clock drawn s url started result = (t, events))
    (recorded : s.call.Recorded 1) (rounds : s.call.Rounds origin path tried) :
    t.call.Rounds origin path tried := by
  obtain ⟨x, _, rfl, _⟩ := settle_follow settled
  exact follow_rounds (s := s.told x) (rounds.record recorded x.record)

/-- Every step of a call that is not redirected keeps it on its round. -/
theorem Transition.rounds {events : List Event} (row : Transition e clock s t events)
    (h : s.Chronicle tried) (rounds : s.call.IsDirect → s.call.Rounds origin path tried)
    (direct : t.call.IsDirect) : t.call.Rounds origin path (tried ++ s.begins) := by
  have before : s.call.IsDirect := fun r among => direct r (row.history.subset among)
  have rounds := rounds before
  -- a step that begins no attempt leaves the attempts where they were made
  have still : s.begins = [] → t.call.Rounds origin path tried →
      t.call.Rounds origin path (tried ++ s.begins) := by
    intro none rounds
    rwa [none, List.append_nil]
  cases row with
  | begins stands => exact still (by simp [Session.begins, stands]) rounds
  | unreadable stands bad => exact h.attempt stands before rounds
  | waits asks answer => exact asks.rounds h before rounds
  | refused asks answer retried =>
    exact ((asks.rounds h before rounds).record (asks.chronicle h).1 _).retry retried
  | sends asks answer built => exact asks.rounds h before rounds
  | @unsendable a _ _ _ _ _ c _ _ asks answer bad settled =>
    exact settle_rounds (s := a.withLimiter c) settled (asks.chronicle h).1
      (asks.rounds h before rounds)
  | hears stands settled =>
    have story := h.story
    rw [stands] at story
    exact still (by simp [Session.begins, stands]) (settle_rounds settled story.1 rounds)
  | @relocates aim delay selection selector stands moved =>
    refine still (by simp [Session.begins, stands]) ?_
    have story := h.story
    rw [stands] at story
    cases aim with
    | next => exact rounds.relocate moved
    | redirect address =>
      -- such a move follows a redirect, and there was none
      obtain ⟨_, _, _, last, all, _, _, verdict⟩ := story
      have among : last ∈ s.call.history := by rw [all]; simp
      exact absurd verdict (before last among)
  | stranded stands stuck =>
    exact still (by simp [Session.begins, stands]) rounds
  | backsOff stands =>
    exact still (by simp [Session.begins, stands])
      ⟨rounds.walk, rounds.path, rounds.tried, rounds.turns_le⟩
  | resumes stands due =>
    exact still (by simp [Session.begins, stands]) rounds
  | succeeds stands => exact still (by simp [Session.begins, stands]) rounds
  | fails stands => exact still (by simp [Session.begins, stands]) rounds

theorem start_rounds (e : Engine) (clock : Clock) (shared : Shared e.endpoints)
    (o : CallOptions) :
    (start e clock shared o).1.call.Rounds shared.preferred.index o.request.path [] where
  walk := Selector.startingAt_onRound ..
  path := rfl
  tried := rfl
  turns_le := nofun

theorem Course.rounds {shared : Shared e.endpoints} {o : CallOptions} {log : List (Nat × Event)}
    (course : Course e (start e clock shared o).1 t tried log) :
    t.Chronicle tried ∧
    (t.call.IsDirect → t.call.Rounds shared.preferred.index o.request.path tried) := by
  refine course.induction (Q := fun s tried _ => s.Chronicle tried ∧
    (s.call.IsDirect → s.call.Rounds shared.preferred.index o.request.path tried)) ?_ ?_ ?_
  · exact ⟨start_chronicle e clock shared o, fun _ => start_rounds e clock shared o⟩
  · exact fun _ h => ⟨⟨h.1.booked.shared _, h.1.story, h.1.trail⟩, h.2⟩
  · exact fun row h => ⟨row.chronicle h.1, row.rounds h.1 h.2⟩

/-! ## How a round ends -/

/-- A call that is not redirected is moved less than a round. -/
theorem Chronicle.relocations_lt (h : t.Chronicle tried)
    (rounds : t.call.Rounds origin path tried) : t.call.relocations < e.endpoints.size := by
  have short := rounds.walk.short
  rwa [h.trail.set] at short

/-- Its attempts are less than a round apart, and no more than it may be moved. -/
theorem Chronicle.turns_lt (h : t.Chronicle tried) (rounds : t.call.Rounds origin path tried)
    {j : Nat} (hj : j < t.call.attempts) :
    turns t.call.history j < min e.endpoints.size (e.maxRelocations + 1) := by
  have le := rounds.turns_le j hj
  have lt := h.relocations_lt rounds
  have made := h.booked.books.relocations_le
  omega

/-- A record names the endpoint that the turns before it led to. -/
theorem Chronicle.record_endpoint (h : t.Chronicle tried)
    (rounds : t.call.Rounds origin path tried) {j : Nat} {r : AttemptRecord}
    (at' : t.call.history[j]? = some r) :
    ∃ u, e.endpoints.urls[(origin + turns t.call.history j) % e.endpoints.size]? = some u ∧
      r.endpoint = u.text := by
  obtain ⟨i, u, among, url, text⟩ := h.trail.records j r at'
  obtain ⟨_, rfl⟩ := rounds.getElem?_eq_some_iff.mp among
  have inside : (origin + turns t.call.history j) % e.endpoints.size < e.endpoints.size :=
    Nat.mod_lt _ e.endpoints.size_pos
  rw [Selector.url?, h.trail.set, List.getElem?_append_left inside] at url
  exact ⟨u, url, text⟩

/-- A call that is not redirected uses its relocations up exactly if it is turned away after all of
them were made. -/
theorem Chronicle.relocations_iff {result : CallResult} (h : t.Chronicle tried)
    (ended : t.point = .finished result) (direct : t.call.IsDirect) (limit : Nat) :
    result.failure? = some (.relocations limit) ↔
      limit = e.maxRelocations ∧ e.maxRelocations < turns t.call.history t.call.history.length := by
  have turned := h.turns_eq direct
  have most := h.booked.books.relocations_le
  have same := h.booked.books.limit
  rw [ended] at turned
  obtain ⟨ending, rfl, how⟩ := h.ended ended
  -- only a call that was to be moved on and was not has a turn more than it has relocations
  have others : (Point.finished (t.call.result ending)).unmoved = 0 →
      ¬e.maxRelocations < turns t.call.history t.call.history.length := by
    omega
  cases how with
  | served => exact iff_of_false nofun fun more => others rfl more.2
  | unread => exact iff_of_false nofun fun more => others rfl more.2
  | failed recorded last owes =>
    cases owes with
    | endpoints room none =>
      change _ = _ + 1 at turned
      exact iff_of_false nofun (by omega)
    | relocations aim full =>
      change _ = _ + 1 at turned
      constructor
      · rintro ⟨⟩
        exact ⟨same, by omega⟩
      · rintro ⟨rfl, _⟩
        exact congrArg (fun limit => some (CallFailure.relocations limit)) same
    | _ => exact iff_of_false nofun fun more => others rfl more.2

/-- It finds no endpoint left exactly if it is turned away at the last of them while it has
relocations left. -/
theorem Chronicle.endpoints_iff {result : CallResult} (h : t.Chronicle tried)
    (rounds : t.call.Rounds origin path tried) (ended : t.point = .finished result)
    (direct : t.call.IsDirect) :
    result.failure? = some .endpoints ↔
      e.endpoints.size ≤ turns t.call.history t.call.history.length ∧
        e.endpoints.size - 1 < e.maxRelocations := by
  have turned := h.turns_eq direct
  have same := h.booked.books.limit
  have short := h.relocations_lt rounds
  rw [ended] at turned
  obtain ⟨ending, rfl, how⟩ := h.ended ended
  have others : (Point.finished (t.call.result ending)).unmoved = 0 →
      ¬e.endpoints.size ≤ turns t.call.history t.call.history.length := by
    omega
  cases how with
  | served => exact iff_of_false nofun fun more => others rfl more.1
  | unread => exact iff_of_false nofun fun more => others rfl more.1
  | failed recorded last owes =>
    cases owes with
    | endpoints room none =>
      change _ = _ + 1 at turned
      have complete : ¬t.call.relocations + 1 < e.endpoints.size := by
        rw [rounds.walk.next?, h.trail.set] at none
        split at none
        · cases none
        · rename_i complete
          exact complete
      exact iff_of_true rfl (by omega)
    | relocations aim full =>
      change _ = _ + 1 at turned
      exact iff_of_false nofun (by omega)
    | _ => exact iff_of_false nofun fun more => others rfl more.1

/-- Where there is a URL to ask below every endpoint, every attempt has its record at the end. -/
theorem Chronicle.answered {result : CallResult} (h : t.Chronicle tried)
    (rounds : t.call.Rounds origin path tried) (ended : t.point = .finished result)
    (readable : ∀ u ∈ e.endpoints.urls, ∃ v, Url.parse (target u path) = .ok v) :
    t.call.history.length = t.call.attempts := by
  obtain ⟨ending, rfl, how⟩ := h.ended ended
  cases how with
  | served response recorded last => exact recorded.attempts
  | failed recorded last owes => exact recorded.attempts
  | unread recorded isOpen bad =>
    obtain ⟨among, asked⟩ := rounds.endpoint_mem h.trail.standing
    rw [h.trail.set] at among
    obtain ⟨v, read⟩ := readable _ among
    rw [asked, read] at bad
    cases bad

/-- A call that ends with a turn untaken ends because it could not be moved. -/
theorem failure?_of_unmoved {result : CallResult} (h : (Point.finished result).unmoved = 1) :
    result.failure? = some .endpoints ∨ ∃ limit, result.failure? = some (.relocations limit) := by
  cases result with
  | ok success => cases h
  | error error =>
    cases hf : error.failure with
    | endpoints => exact .inl (congrArg some hf)
    | relocations limit => exact .inr ⟨limit, congrArg some hf⟩
    | _ => simp [Point.unmoved, Point.failure?, hf, CallFailure.isMoveRefused] at h

/-- A call that every endpoint it tries turns away tries each once, until the ring or its
relocations are used up, and retries nothing. -/
theorem Chronicle.attempts_of_all {result : CallResult} (h : t.Chronicle tried)
    (rounds : t.call.Rounds origin path tried) (ended : t.point = .finished result)
    (answered : t.call.history.length = t.call.attempts)
    (all : ∀ r ∈ t.call.history, r.verdict = .unavailable) :
    t.call.attempts = min e.endpoints.size (e.maxRelocations + 1) ∧ t.call.retries = 0 ∧
    tried = (List.range (min e.endpoints.size (e.maxRelocations + 1))).map
      fun d => (origin + d) % e.endpoints.size := by
  have direct : t.call.IsDirect := by
    intro r among
    rw [all r among]
    decide
  have turned := turns_of_all all (Nat.le_refl _)
  have books := h.booked.books
  have paid := books.attempts
  have made := books.relocations_le
  have retried := books.retryable
  have none : t.call.history.countP (·.verdict.isRetryable) = 0 :=
    List.countP_eq_zero.mpr fun r among => by rw [all r among]; decide
  have unmoved := h.turns_eq direct
  rw [ended] at paid unmoved
  change _ = _ + _ + 1 at paid
  have short := h.relocations_lt rounds
  -- the last turn was not taken, so that there was nowhere to go or no way to go there
  have attempts : t.call.attempts = min e.endpoints.size (e.maxRelocations + 1) := by
    have untaken : (Point.finished result).unmoved = 1 := by omega
    rcases failure?_of_unmoved untaken with failure | ⟨limit, failure⟩
    · have last := (h.endpoints_iff rounds ended direct).mp failure
      omega
    · have last := (h.relocations_iff ended direct limit).mp failure
      omega
  refine ⟨attempts, by omega, ?_⟩
  rw [rounds.tried, ← attempts, h.trail.set]
  refine List.map_congr_left fun j among => ?_
  rw [turns_of_all all (answered ▸ (List.mem_range.mp among).le)]

/-- However a call goes, it stays where it can come to. -/
theorem reaches_run {run : Nat → Session e.endpoints}
    (goes : ∀ n, Onward e (run n) (run (n + 1)) ∨ (run n).IsFinished ∧ run (n + 1) = run n)
    (n : Nat) : Reaches e (run 0) (run n) := by
  induction n with
  | zero => exact .refl
  | succ n ih =>
    rcases goes n with onward | ⟨_, same⟩
    · exact ih.tail onward
    · rw [same]
      exact ih

/-- A run that does not wait for ever comes to the end of its call. -/
theorem exists_finished {run : Nat → Session e.endpoints}
    (goes : ∀ n, Onward e (run n) (run (n + 1)) ∨ (run n).IsFinished ∧ run (n + 1) = run n)
    (stirs : ∀ n, ∃ m, n ≤ m ∧ ¬(run m).IsWaiting) : ∃ n, (run n).IsFinished := by
  by_contra never
  obtain ⟨n, waits⟩ := waits_forever fun n => (goes n).resolve_right fun ended =>
    never ⟨n, ended.1⟩
  obtain ⟨m, later, stirs⟩ := stirs n
  exact stirs (waits m later)

/-- The attempts of a call that no server redirects are made at one endpoint after the other, from
the preferred one round the ring: each as far on as there were answers before it that turned the
call away, so that no endpoint is tried again after it was left, and never a whole round on. Each
such answer moved the call once, unless it is about to be moved or could not be. A call that is
turned away once more after all its relocations fails for that reason, and one that is
turned away by the last endpoint with relocations left fails because no endpoint is left; nothing
else makes it fail so. Nothing has to be assumed of the addresses for this: where there is no URL to
ask, there is no answer. A call that is not kept waiting for ever comes to its end, and if it is
turned away every time it has made one attempt at each endpoint on its way and no retry. -/
theorem goes_round (e : Engine) (clock : Clock) (shared : Shared e.endpoints) (o : CallOptions) :
    let first := (start e clock shared o).1
    let size := e.endpoints.size
    let most := min size (e.maxRelocations + 1)
    let place := fun n => (shared.preferred.index + n) % size
    (∀ t tried log, Course e first t tried log → (∀ r ∈ t.call.history, r.verdict ≠ .redirect) →
      tried = (List.range t.call.attempts).map (fun j => place (turns t.call.history j)) ∧
      (∀ j < t.call.attempts, turns t.call.history j < most) ∧
      turns t.call.history t.call.history.length = t.call.relocations + t.point.unmoved ∧
      (∀ i j m x : Nat, i ≤ j → j ≤ m → tried[i]? = some x → tried[m]? = some x →
        tried[j]? = some x) ∧
      tried.dedup.length ≤ most ∧
      (∀ (j : Nat) (r : AttemptRecord), t.call.history[j]? = some r →
        ∃ u, e.endpoints.urls[place (turns t.call.history j)]? = some u ∧ r.endpoint = u.text) ∧
      ∀ result, t.point = .finished result →
        (∀ limit, result.failure? = some (.relocations limit) ↔ limit = e.maxRelocations ∧
          ∃ (j : Nat) (r : AttemptRecord), t.call.history[j]? = some r ∧
            r.verdict = .unavailable ∧ turns t.call.history j = e.maxRelocations) ∧
        (result.failure? = some .endpoints ↔
          ∃ (j : Nat) (r : AttemptRecord), t.call.history[j]? = some r ∧
            r.verdict = .unavailable ∧ turns t.call.history j + 1 = size ∧
            turns t.call.history j < e.maxRelocations) ∧
        (t.call.history.length = t.call.attempts →
          (∀ r ∈ t.call.history, r.verdict = .unavailable) →
          t.call.attempts = most ∧ t.call.retries = 0 ∧ tried = (List.range most).map place)) ∧
    ∀ run : Nat → Session e.endpoints, run 0 = first →
      (∀ n, Onward e (run n) (run (n + 1)) ∨ (run n).IsFinished ∧ run (n + 1) = run n) →
      (∀ n, ∃ m, n ≤ m ∧ ¬(run m).IsWaiting) →
      ∃ n tried log, Course e first (run n) tried log ∧ (run n).IsFinished ∧
        ((∀ u ∈ e.endpoints.urls, ∃ v, Url.parse (target u o.request.path) = .ok v) →
          (∀ r ∈ (run n).call.history, r.verdict = .unavailable) →
          (run n).call.attempts = most ∧ (run n).call.retries = 0 ∧
          tried = (List.range most).map place) := by
  intro first size most place
  refine ⟨?_, ?_⟩
  · intro t tried log course direct
    obtain ⟨chronicle, rounds⟩ := course.rounds
    have rounds := rounds direct
    have few : ∀ j < t.call.attempts, turns t.call.history j < most :=
      fun j hj => chronicle.turns_lt rounds hj
    refine ⟨?_, few, chronicle.turns_eq direct, ?_, rounds.dedup_length_le few, ?_, ?_⟩
    · rw [rounds.tried, chronicle.trail.set]
    · exact fun i j m x hij hjm hi hm => rounds.block hij hjm hi hm
    · exact fun j r at' => chronicle.record_endpoint rounds at'
    · intro result ended
      refine ⟨fun limit => ?_, ?_, chronicle.attempts_of_all rounds ended⟩
      · rw [chronicle.relocations_iff ended direct, exists_turn_iff]
      · rw [chronicle.endpoints_iff rounds ended direct]
        have last := exists_turn_iff t.call.history (size - 1)
        have pos : 0 < size := e.endpoints.size_pos
        constructor
        · rintro ⟨more, room⟩
          obtain ⟨j, r, at', turned, count⟩ := last.mpr (by omega)
          exact ⟨j, r, at', turned, by omega, by omega⟩
        · rintro ⟨j, r, at', turned, count, room⟩
          have := last.mp ⟨j, r, at', turned, by omega⟩
          omega
  · intro run begins goes stirs
    obtain ⟨n, ended⟩ := exists_finished goes stirs
    have reached : Reaches e first (run n) := begins ▸ reaches_run goes n
    obtain ⟨tried, log, course⟩ := reaches_iff_exists_course.mp reached
    obtain ⟨chronicle, rounds⟩ := course.rounds
    refine ⟨n, tried, log, course, ended, fun readable all => ?_⟩
    have rounds := rounds fun r among => by rw [all r among]; decide
    obtain ⟨result, stands⟩ := ended
    have answered := chronicle.answered rounds stands readable
    exact chronicle.attempts_of_all rounds stands answered all

/-- A call that both endpoints turn away makes one attempt at each. -/
theorem goes_round_turnedAway :
    ∃ t tried log, Course couple turnedAway.session t tried log ∧ t.IsFinished ∧
      t.call.attempts = 2 ∧ t.call.retries = 0 ∧ tried = [0, 1] := by
  obtain ⟨tried, log, course⟩ := Travel.run_course couple ⟨0, 0⟩ turnedAway
  have all : ∀ r ∈ (Travel.run couple ⟨0, 0⟩ turnedAway).session.call.history,
      r.verdict = .unavailable := by decide +kernel
  have ends : (Travel.run couple ⟨0, 0⟩ turnedAway).session.point.result?.isSome := by
    decide +kernel
  obtain ⟨result, ended⟩ := Option.isSome_iff_exists.mp ends
  have stands := Point.result?_eq_some_iff.mp ended
  have direct : ∀ r ∈ (Travel.run couple ⟨0, 0⟩ turnedAway).session.call.history,
      r.verdict ≠ .redirect := by
    intro r among
    rw [all r among]
    decide
  obtain ⟨_, _, _, _, _, _, finished⟩ := (goes_round couple ⟨0, 0⟩ couple.fresh
    ⟨.of "GET" "/", none, .empty⟩).1 _ tried log course direct
  obtain ⟨attempts, retries, places⟩ := (finished result stands).2.2 (by decide +kernel) all
  exact ⟨_, tried, log, course, ⟨result, stands⟩, attempts, retries, places⟩

end Session
end Failover
