import Failover.Proofs.Endpoint.Walk
import Mathlib.Data.Nat.ModEq

/-!
# Where a walk has been

A walk keeps a mark for every endpoint it knows, and a move sets the mark of the endpoint it leads
to and no other. So the marks say where the walk has been: a walk finds no endpoint left exactly
when every endpoint of the set is marked, and one that follows no redirect goes once round the ring.
-/

namespace Failover

namespace Selector

/-! ## Places on a ring -/

/-- Every place on a ring of `n` is at most a round away from any other. -/
theorem exists_turn {n i : Nat} (start : Nat) (h : i < n) : ∃ d < n, (start + d) % n = i := by
  refine ⟨(i + (n - start % n)) % n, Nat.mod_lt _ (by omega), ?_⟩
  have below : start % n < n := Nat.mod_lt _ (by omega)
  have whole : start + (i + (n - start % n)) = i + n * (start / n + 1) := by
    have := Nat.div_add_mod start n
    rw [Nat.mul_add]
    omega
  rw [Nat.add_mod_mod, whole, Nat.add_mul_mod_self_left, Nat.mod_eq_of_lt h]

/-- Less than a round apart, no two places on a ring are the same. -/
theorem turn_inj {n start d d' : Nat} (hd : d < n) (hd' : d' < n) :
    (start + d) % n = (start + d') % n ↔ d = d' := by
  refine ⟨fun same => ?_, fun same => by rw [same]⟩
  have turned : d ≡ d' [MOD n] := Nat.ModEq.add_left_cancel' start same
  rwa [Nat.ModEq, Nat.mod_eq_of_lt hd, Nat.mod_eq_of_lt hd'] at turned

variable {w w' known : Selector} {aim : Relocation} {s : Selection} {address : Url} {index : Nat}
  {path : String}

/-- A walk looks for the next endpoint at every endpoint of the set. -/
theorem mem_ring : index ∈ w.ring ↔ index < w.set.size := by
  have pos := w.set.size_pos
  rw [ring, List.mem_map]
  constructor
  · rintro ⟨step, _, rfl⟩
    exact Nat.mod_lt _ pos
  · intro inside
    obtain ⟨d, hd, at'⟩ :=
      exists_turn ((if w.isKnown w.current then w.current else w.set.size - 1) + 1) inside
    exact ⟨d, List.mem_range.mpr hd, by rw [← at', Nat.add_right_comm]⟩

/-- No endpoint is left for a walk that has been to all endpoints of the set. -/
theorem next?_eq_none_iff : w.next? = none ↔ ∀ i < w.set.size, w.isVisited i := by
  rw [next?, List.find?_eq_none]
  constructor
  · intro tried i inside
    simpa using tried i (mem_ring.mpr inside)
  · intro tried i among
    simpa using tried i (mem_ring.mp among)

/-- The next endpoint is one of the set. -/
theorem lt_of_next? (h : w.next? = some index) : index < w.set.size :=
  mem_ring.mp (List.mem_of_find?_eq_some h)

/-- A walk is refused a move when it has none left, or when no endpoint is left for it. -/
theorem relocate_error {error : SelectionError} (h : w.relocate aim = .error error) :
    (error = .limitExceeded w.limit ∧ w.limit ≤ w.relocations) ∨
    (error = .noneRemaining ∧ aim = .next ∧ w.relocations < w.limit ∧ w.next? = none) := by
  rw [relocate.eq_def] at h
  split at h
  · rename_i full
    cases h
    exact .inl ⟨rfl, full⟩
  · rename_i room
    split at h
    · split at h
      · cases h
      · rename_i none
        cases h
        exact .inr ⟨rfl, rfl, by omega, none⟩
    · cases h

/-! ## Marks -/

theorem isVisited_iff {i : Nat} : w.isVisited i ↔ w.visited[i]? = some true := beq_iff_eq

/-- A walk has a mark for every endpoint it knows, and has been where it stands. -/
structure IsStanding (w : Selector) : Prop where
  fits : w.visited.length = w.set.size + w.added.length
  visited : w.isVisited w.current

theorem startingAt_isVisited {set : EndpointSet} {start limit i : Nat} :
    (startingAt set start limit).isVisited i ↔ i = start % set.size := by
  have inside : start % set.size < set.size := Nat.mod_lt _ set.size_pos
  rw [isVisited_iff, startingAt, List.getElem?_set]
  by_cases h : start % set.size = i
  · simp [h, h ▸ inside]
  · simp [h, Ne.symm h, List.getElem?_replicate]

theorem startingAt_isStanding (set : EndpointSet) (start limit : Nat) :
    (startingAt set start limit).IsStanding where
  fits := by simp [startingAt]
  visited := startingAt_isVisited.mpr rfl

/-- A walk knows a URL by the index of each mark. -/
theorem IsStanding.exists_url? (h : w.IsStanding) (inside : index < w.visited.length) :
    ∃ u, w.url? index = some u := by
  have known : index < (w.set.urls ++ w.added).length := by
    rw [List.length_append]
    exact h.fits ▸ inside
  exact ⟨_, List.getElem?_eq_getElem known⟩

/-- A walk stands at an endpoint that it knows. -/
theorem IsStanding.url?_current (h : w.IsStanding) : w.url? w.current = some w.currentUrl := by
  obtain ⟨inside, _⟩ := List.getElem?_eq_some_iff.mp (isVisited_iff.mp h.visited)
  obtain ⟨u, at'⟩ := h.exists_url? inside
  rw [currentUrl, at']

/-- What a walk knows stays known: the set is the same, and every endpoint keeps its place. -/
structure IsKeptBy (w w' : Selector) : Prop where
  set : w'.set = w.set
  url? : ∀ {i : Nat} {u : Url}, w.url? i = some u → w'.url? i = some u

/-- To find an address adds an endpoint without a mark, or none at all. -/
theorem Found.marks (h : Found w address (known, index, path)) (standing : w.IsStanding) :
    w.IsKeptBy known ∧ known.visited.length = known.set.size + known.added.length ∧
    index < known.visited.length ∧ ∀ i, known.isVisited i ↔ w.isVisited i := by
  have fits := standing.fits
  cases h with
  | known resolved at' below =>
    obtain ⟨inside, _⟩ := List.getElem?_eq_some_iff.mp at'
    change index < w.set.size at inside
    exact ⟨⟨rfl, id⟩, fits, by omega, fun _ => .rfl⟩
  | added resolved at' same =>
    obtain ⟨inside, _⟩ := List.getElem?_eq_some_iff.mp at'
    exact ⟨⟨rfl, id⟩, fits, by omega, fun _ => .rfl⟩
  | new resolved =>
    refine ⟨⟨rfl, ?_⟩, ?_, ?_, ?_⟩
    · intro i u at'
      show (w.set.urls ++ (w.added ++ [address.root]))[i]? = some u
      rw [← List.append_assoc]
      exact List.getElem?_append_left (List.getElem?_eq_some_iff.mp at').1 ▸ at'
    · simp only [List.length_append, List.length_singleton]
      omega
    · simp only [List.length_append, List.length_singleton]
      omega
    · intro i
      simp only [isVisited_iff, List.getElem?_append, List.getElem?_singleton]
      split
      · rfl
      · rename_i beyond
        rw [List.getElem?_eq_none (by omega)]
        split <;> simp

/-- A move marks the endpoint where it leads. -/
theorem isVisited_moveTo (inside : index < w.visited.length) {i : Nat} :
    (w.moveTo index).isVisited i ↔ w.isVisited i ∨ i = index := by
  rw [isVisited_iff, isVisited_iff, moveTo, List.getElem?_set]
  by_cases h : index = i
  · simp [h, h ▸ inside]
  · simp [h, Ne.symm h]

/-- A walk stands where a move leads, if it has a mark for the place. -/
theorem moveTo_isStanding (fits : w.visited.length = w.set.size + w.added.length)
    (inside : index < w.visited.length) : (w.moveTo index).IsStanding where
  fits := by rw [moveTo, List.length_set, fits]
  visited := (isVisited_moveTo inside).mpr (.inr rfl)

/-- The next endpoint has a mark of its own. -/
theorem IsStanding.lt_of_next? (h : w.IsStanding) (next : w.next? = some index) :
    index < w.visited.length := by
  have := Selector.lt_of_next? next
  have := h.fits
  omega

/-- A move keeps what the walk knows, and adds one mark, where the walk stands now. -/
theorem Move.marks (h : Move w aim s w') (standing : w.IsStanding) :
    w.IsKeptBy w' ∧ w'.IsStanding ∧ ∀ i, w'.isVisited i ↔ w.isVisited i ∨ i = w'.current := by
  cases h with
  | @next index room untried =>
    have inside := standing.lt_of_next? untried
    exact ⟨⟨rfl, id⟩, moveTo_isStanding standing.fits inside, fun i => isVisited_moveTo inside⟩
  | @redirect address known index path room found =>
    obtain ⟨kept, fits, inside, marks⟩ := found.marks standing
    refine ⟨⟨kept.set, kept.url?⟩, moveTo_isStanding fits inside, fun i => ?_⟩
    rw [isVisited_moveTo inside, marks]
    rfl

/-- A move tells of the endpoint that the walk stands at then, by the index of its URL. -/
theorem Move.url?_index (h : Move w aim s w') (standing : w.IsStanding) :
    s.index = w'.current ∧ w'.url? s.index = some s.base := by
  have current := (h.marks standing).2.1.url?_current
  cases h with
  | next room untried => exact ⟨rfl, current⟩
  | redirect room found => exact ⟨rfl, current⟩

/-! ## Once round the ring -/

/-- A walk that began at `start` and has gone from each endpoint to the one after it, for less than
a round: it has been to those it came by and to no others. -/
structure OnRound (w : Selector) (start : Nat) : Prop where
  fits : w.visited.length = w.set.size
  current : w.current = (start + w.relocations) % w.set.size
  short : w.relocations < w.set.size
  visited : ∀ d < w.set.size, w.isVisited ((start + d) % w.set.size) ↔ d ≤ w.relocations

theorem startingAt_onRound (set : EndpointSet) (start limit : Nat) :
    (startingAt set start limit).OnRound start where
  fits := by simp [startingAt]
  current := rfl
  short := set.size_pos
  visited := by
    intro d hd
    change d < set.size at hd
    show (startingAt set start limit).isVisited ((start + d) % set.size) ↔ d ≤ 0
    rw [startingAt_isVisited, ← Nat.add_zero start, Nat.add_assoc,
      turn_inj (by omega) (by omega)]
    omega

namespace OnRound

variable {start : Nat}

theorem current_lt (h : w.OnRound start) : w.current < w.set.size := by
  rw [h.current]
  exact Nat.mod_lt _ w.set.size_pos

/-- On a round the next endpoint is the one after the current one, until the round is over. -/
theorem next? (h : w.OnRound start) :
    w.next? = if w.relocations + 1 < w.set.size then
      some ((start + (w.relocations + 1)) % w.set.size) else none := by
  split
  · rename_i short
    obtain ⟨n, size⟩ : ∃ n, w.set.size = n + 1 := ⟨w.set.size - 1, by omega⟩
    have after : (w.current + 0 + 1) % w.set.size = (start + (w.relocations + 1)) % w.set.size := by
      rw [h.current, Nat.add_zero, Nat.mod_add_mod, Nat.add_assoc]
    have untried : w.isVisited ((start + (w.relocations + 1)) % w.set.size) = false := by
      rw [← Bool.not_eq_true, h.visited _ short]
      omega
    have known : w.isKnown w.current = true := decide_eq_true h.current_lt
    rw [Selector.next?, ring, if_pos known, size, List.range_succ_eq_map, ← size, List.map_cons,
      List.find?_cons_of_pos (by rw [after, untried]; rfl), after]
  · rename_i complete
    refine next?_eq_none_iff.mpr fun i inside => ?_
    obtain ⟨d, hd, at'⟩ := exists_turn start inside
    rw [← at', h.visited d hd]
    have := h.short
    omega

/-- A move on a round leads to the endpoint after the current one. -/
theorem move (h : w.OnRound start) (move : Move w .next s w') : w'.OnRound start := by
  cases move with
  | @next index room untried =>
    have fits := h.fits
    have next := h.next?
    rw [untried] at next
    split at next
    · rename_i short
      injection next with at'
      have inside : index < w.visited.length := by
        have := lt_of_next? untried
        omega
      refine ⟨?_, at', short, ?_⟩
      · rw [moveTo, List.length_set, fits]
      · intro d hd
        change d < w.set.size at hd
        show (w.moveTo index).isVisited ((start + d) % w.set.size) ↔ d ≤ w.relocations + 1
        rw [isVisited_moveTo inside, h.visited d hd, at', turn_inj hd short]
        omega
    · cases next

end OnRound

end Selector
end Failover
