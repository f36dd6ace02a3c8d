import Failover.Endpoint.Selector

/-!
# Moves of a walk

Where a walk over the endpoints can go, row by row: `Found` has a row for each way in which an
address is found, `Move` one for each kind of move. What follows about walks is proved on the rows.
-/

namespace Failover

namespace EndpointSet

/-- What a URL has below a base is empty or begins with a slash or a question mark. -/
theorem below?_some {base u : Url} {rest : List Char} (h : below? base u = some rest) :
    u.chars = base.trimmed ++ rest ∧ ∀ c ∈ rest.head?, c = '/' ∨ c = '?' := by
  rw [below?] at h
  split at h
  · rename_i behind
    cases h
    exact ⟨behind?_eq_some_iff.mp behind, nofun⟩
  · rename_i c more behind
    split at h
    · rename_i edge
      cases h
      refine ⟨behind?_eq_some_iff.mp behind, ?_⟩
      rintro d ⟨⟩
      exact edge
    · cases h
  · cases h

/-- An endpoint that is found is one of the bases. -/
theorem resolveFrom_some {u : Url} {index found : Nat} {bases : List Url} {path : String}
    (h : resolveFrom u index bases = some (found, path)) :
    ∃ k base, found = index + k ∧ bases[k]? = some base ∧ below? base u = some path.toList := by
  induction bases generalizing index with
  | nil => cases h
  | cons base bases ih =>
    rw [resolveFrom] at h
    split at h
    · rename_i rest below
      cases h
      exact ⟨0, base, rfl, rfl, by rw [String.toList_ofList, below]⟩
    · obtain ⟨k, later, e, hk, below⟩ := ih h
      exact ⟨k + 1, later, by omega, hk, below⟩

theorem resolve_some {s : EndpointSet} {u : Url} {index : Nat} {path : String}
    (h : s.resolve u = some (index, path)) :
    ∃ base, s.urls[index]? = some base ∧ below? base u = some path.toList := by
  obtain ⟨k, base, e, hk, below⟩ := resolveFrom_some h
  rw [Nat.zero_add] at e
  exact ⟨base, e ▸ hk, below⟩

end EndpointSet

namespace Selector

variable {w w' known : Selector} {address : Url} {index : Nat} {path : String}

/-- The endpoints of the set come first, in their order. -/
theorem url?_of_set {base : Url} (at' : w.set.urls[index]? = some base) :
    w.url? index = some base := by
  obtain ⟨bound, _⟩ := List.getElem?_eq_some_iff.mp at'
  rw [url?, List.getElem?_append_left bound, at']

/-- The endpoints that were added stand behind those of the set. -/
theorem url?_of_added {base : Url} {k : Nat} (at' : w.added[k]? = some base) :
    w.url? (w.set.size + k) = some base := by
  rw [url?, EndpointSet.size, List.getElem?_append_right (by omega), Nat.add_sub_cancel_left, at']

/-- The ways in which an address is found: below an endpoint of the set, or else under one that was
added for its origin or is added for it now. -/
inductive Found (w : Selector) (address : Url) : Selector × Nat × String → Prop
  | known {index : Nat} {path : String} {base : Url}
      (resolved : w.set.resolve address = some (index, path))
      (at' : w.set.urls[index]? = some base)
      (below : EndpointSet.below? base address = some path.toList) :
      Found w address (w, index, path)
  | added {k : Nat} {base : Url} (resolved : w.set.resolve address = none)
      (at' : w.added[k]? = some base) (same : base.sameOrigin address = true) :
      Found w address (w, w.set.size + k, String.ofList address.pathAndQuery)
  | new (resolved : w.set.resolve address = none)
      (fresh : ∀ base ∈ w.added, base.sameOrigin address = false) :
      Found w address
        ({ w with added := w.added ++ [address.root], visited := w.visited ++ [false] },
          w.set.size + w.added.length, String.ofList address.pathAndQuery)

theorem locate_found (w : Selector) (address : Url) : Found w address (w.locate address) := by
  rw [locate.eq_def]
  split
  · rename_i resolved
    obtain ⟨base, at', below⟩ := EndpointSet.resolve_some resolved
    exact .known resolved at' below
  · rename_i resolved
    dsimp only
    split
    · rename_i index found
      rw [addedFor?, Option.map_eq_some_iff] at found
      obtain ⟨k, hk, rfl⟩ := found
      obtain ⟨bound, same, _⟩ := List.findIdx?_eq_some_iff_getElem.mp hk
      exact .added resolved (List.getElem?_eq_getElem bound) same
    · rename_i unmatched
      rw [addedFor?, Option.map_eq_none_iff] at unmatched
      exact .new resolved (List.findIdx?_eq_none_iff.mp unmatched)

/-- To find an address moves nothing. -/
theorem Found.frame (h : Found w address (known, index, path)) :
    known.set = w.set ∧ known.relocations = w.relocations ∧ known.limit = w.limit := by
  cases h with
  | known => exact ⟨rfl, rfl, rfl⟩
  | added => exact ⟨rfl, rfl, rfl⟩
  | new => exact ⟨rfl, rfl, rfl⟩

/-- The moves that a walk may make while it has one left: to the next endpoint of the set, or to
where an address is found. -/
inductive Move (w : Selector) : Relocation → Selection → Selector → Prop
  | next {index : Nat} (room : w.relocations < w.limit) (untried : w.next? = some index) :
      Move w .next ((w.moveTo index).selection none) (w.moveTo index)
  | redirect {address : Url} {known : Selector} {index : Nat} {path : String}
      (room : w.relocations < w.limit) (found : Found w address (known, index, path)) :
      Move w (.redirect address) ((known.moveTo index).selection (some path)) (known.moveTo index)

theorem relocate_move {aim : Relocation} {s : Selection} (h : w.relocate aim = .ok (s, w')) :
    Move w aim s w' := by
  rw [relocate.eq_def] at h
  split at h
  · cases h
  · rename_i room
    split at h
    · split at h
      · rename_i untried
        cases h
        exact .next (by omega) untried
      · cases h
    · rename_i address
      cases h
      exact .redirect (by omega) (locate_found w address)

/-- A walk that moves had a relocation left and has spent it. -/
theorem relocate_ok {aim : Relocation} {s : Selection} (h : w.relocate aim = .ok (s, w')) :
    w.relocations < w.limit ∧ w'.relocations = w.relocations + 1 ∧ w'.limit = w.limit := by
  cases relocate_move h with
  | next room untried => exact ⟨room, rfl, rfl⟩
  | redirect room found =>
    obtain ⟨_, made, limit⟩ := found.frame
    exact ⟨room, congrArg (· + 1) made, limit⟩

end Selector
end Failover
