import Failover.Proofs.Endpoint.Ring

/-!
# Moves in place

A walk that is asked for a move either moves or refuses, and a refusal leaves it as it was. Here the
same is done in place, one effect after another: what was changed before a refusal stays changed,
and a look-up that finds nothing leaves no outcome at all. On every walk that stands at an endpoint
with a mark, both come to the same. So no look-up of a move fails there, and nothing has to be taken
back when a move is refused.
-/

namespace Failover

namespace Selector

/-- The answer of a walk that is asked for a move, and the walk afterwards. -/
def ask (w : Selector) (aim : Relocation) : Except SelectionError Selection × Selector :=
  match w.relocate aim with
  | .ok (selection, moved) => (.ok selection, moved)
  | .error error => (.error error, w)

/-- A walk that is asked for a move goes there, or refuses and stays the same. -/
theorem ask_cases (w : Selector) (aim : Relocation) :
    (∃ s w', w.relocate aim = .ok (s, w') ∧ w.ask aim = (.ok s, w')) ∨
    ∃ error, w.relocate aim = .error error ∧ w.ask aim = (.error error, w) := by
  rw [ask]
  cases w.relocate aim with
  | ok moved => exact .inl ⟨moved.1, moved.2, rfl, rfl⟩
  | error error => exact .inr ⟨error, rfl, rfl⟩

theorem ask_ok {w : Selector} {aim : Relocation} {s : Selection} (h : (w.ask aim).1 = .ok s) :
    ∃ w', w.relocate aim = .ok (s, w') := by
  rcases w.ask_cases aim with ⟨s', w', moved, asked⟩ | ⟨_, _, asked⟩
  · rw [asked] at h
    cases h
    exact ⟨w', moved⟩
  · rw [asked] at h
    cases h

/-- A refusal leaves a walk as it was. -/
theorem ask_error {w : Selector} {aim : Relocation} {error : SelectionError}
    (h : (w.ask aim).1 = .error error) : w.relocate aim = .error error ∧ (w.ask aim).2 = w := by
  rcases w.ask_cases aim with ⟨_, _, _, asked⟩ | ⟨_, refused, asked⟩
  · rw [asked] at h
    cases h
  · rw [asked] at h ⊢
    cases h
    exact ⟨refused, rfl⟩

/-! ## Effects -/

/-- Effects on a walk, which may end in a refusal, or in nothing. -/
abbrev InPlace := ExceptT SelectionError (StateT Selector Option)

/-- Looks up what has to be there. -/
def look {α : Type} (find : Selector → Option α) : InPlace α := do
  let found ← find (← get)
  return found

/-- Whether an endpoint has not been tried. -/
def untried (index : Nat) : InPlace Bool := return !(← look (·.visited[index]?))

/-- The first endpoint on the ring that has not been tried. -/
def searching : InPlace Nat := do
  match ← (← get).ring.findM? untried with
  | some index => return index
  | none => throw .noneRemaining

/-- The endpoint of an address and the path below it. A new endpoint gets a mark, and its index is
that of the last mark. -/
def locating (address : Url) : InPlace (Nat × String) := do
  let w ← get
  match w.set.resolve address with
  | some found => return found
  | none =>
    let path := String.ofList address.pathAndQuery
    match w.addedFor? address with
    | some index => return (index, path)
    | none =>
      modify fun w => { w with added := w.added ++ [address.root] }
      modify fun w => { w with visited := w.visited ++ [false] }
      return ((← get).visited.length - 1, path)

/-- Where to go, and the path below it after a redirect. -/
def aiming : Relocation → InPlace (Nat × Option String)
  | .next => return (← searching, none)
  | .redirect address => do
    let (index, path) ← locating address
    return (index, some path)

/-- Sets a mark, which has to be there. -/
def marking (index : Nat) : InPlace Unit := do
  let _ ← look (·.visited[index]?)
  modify fun w => { w with visited := w.visited.set index true }

/-- Goes to an endpoint. -/
def going (index : Nat) (path : Option String) : InPlace Selection := do
  modify fun w => { w with relocations := w.relocations + 1 }
  marking index
  modify fun w => { w with current := index }
  return ⟨index, ← look (·.url? index), path⟩

/-- A move, in place. -/
def relocating (aim : Relocation) : InPlace Selection := do
  let w ← get
  if w.limit ≤ w.relocations then
    throw (.limitExceeded w.limit)
  else
    let (index, path) ← aiming aim
    going index path

/-- What effects come to: nothing, or an answer and the walk that they leave. -/
def outcome? {α : Type} (x : InPlace α) (w : Selector) :
    Option (Except SelectionError α × Selector) := x.run.run w

/-! ## Outcomes -/

section Outcomes

variable {w w' : Selector} {α β : Type} {a : α} {x : InPlace α} {f : α → InPlace β} {index : Nat}

theorem outcome?_bind_ok (h : outcome? x w = some (.ok a, w')) :
    outcome? (x >>= f) w = outcome? (f a) w' := by
  show (outcome? x w).bind _ = _
  rw [h]
  rfl

theorem outcome?_bind_error {error : SelectionError} (h : outcome? x w = some (.error error, w')) :
    outcome? (x >>= f) w = some (.error error, w') := by
  show (outcome? x w).bind _ = _
  rw [h]
  rfl

theorem outcome?_get : outcome? get w = some (.ok w, w) := rfl

theorem outcome?_modify (change : Selector → Selector) :
    outcome? (modify change) w = some (.ok ⟨⟩, change w) := rfl

theorem outcome?_look {find : Selector → Option α} (h : find w = some a) :
    outcome? (look find) w = some (.ok a, w) := by
  rw [look, outcome?_bind_ok outcome?_get, h]
  rfl

/-- A search whose tests all have an outcome finds the first that passes. -/
theorem outcome?_findM? {p : Nat → InPlace Bool} {q : Nat → Bool} {indices : List Nat}
    (h : ∀ i ∈ indices, outcome? (p i) w = some (.ok (q i), w)) :
    outcome? (indices.findM? p) w = some (.ok (indices.find? q), w) := by
  induction indices with
  | nil => rfl
  | cons i rest ih =>
    have first := h i List.mem_cons_self
    have later := ih fun j hj => h j (List.mem_cons_of_mem i hj)
    rw [List.findM?, outcome?_bind_ok first, List.find?_cons]
    cases q i with
    | true => rfl
    | false => exact later

theorem outcome?_untried (inside : index < w.visited.length) :
    outcome? (untried index) w = some (.ok (!w.isVisited index), w) := by
  have at' := List.getElem?_eq_getElem inside
  rw [untried, outcome?_bind_ok (outcome?_look at'), isVisited, at']
  cases w.visited[index] <;> rfl

/-- Every endpoint on the ring has a mark to be looked up. -/
theorem outcome?_searching (h : w.IsStanding) :
    outcome? searching w = some (match w.next? with
      | some index => (.ok index, w)
      | none => (.error .noneRemaining, w)) := by
  have found : outcome? (w.ring.findM? untried) w = some (.ok w.next?, w) := by
    refine outcome?_findM? fun index among => outcome?_untried ?_
    have := mem_ring.mp among
    have := h.fits
    omega
  show outcome? (w.ring.findM? untried >>= _) w = _
  rw [outcome?_bind_ok found]
  cases w.next? <;> rfl

theorem outcome?_locating (h : w.IsStanding) (address : Url) :
    outcome? (locating address) w = some (.ok (w.locate address).2, (w.locate address).1) := by
  rw [locating, outcome?_bind_ok outcome?_get, locate.eq_def]
  cases w.set.resolve address with
  | some found => rfl
  | none =>
    cases w.addedFor? address with
    | some index => rfl
    | none =>
      -- the new endpoint has the last mark
      have last : (w.visited ++ [false]).length - 1 = w.set.size + w.added.length := by
        rw [List.length_append, List.length_singleton, Nat.add_sub_cancel, h.fits]
      show some (Except.ok ((w.visited ++ [false]).length - 1, _), _) = _
      rw [last]

theorem outcome?_marking (inside : index < w.visited.length) :
    outcome? (marking index) w =
      some (.ok (), { w with visited := w.visited.set index true }) := by
  rw [marking, outcome?_bind_ok (outcome?_look (List.getElem?_eq_getElem inside))]
  rfl

theorem outcome?_going (fits : w.visited.length = w.set.size + w.added.length)
    (inside : index < w.visited.length) (path : Option String) :
    outcome? (going index path) w =
      some (.ok ((w.moveTo index).selection path), w.moveTo index) := by
  have marked := outcome?_marking (w := { w with relocations := w.relocations + 1 }) inside
  have base : (w.moveTo index).url? index = some (w.moveTo index).currentUrl :=
    (moveTo_isStanding fits inside).url?_current
  rw [going, outcome?_bind_ok (outcome?_modify _), outcome?_bind_ok marked,
    outcome?_bind_ok (outcome?_modify _)]
  exact outcome?_bind_ok (outcome?_look base)

/-- In place, a move of a walk that stands at an endpoint comes to the same answer and leaves the
same walk. -/
theorem outcome?_relocating (h : w.IsStanding) (aim : Relocation) :
    outcome? (relocating aim) w = some (w.ask aim) := by
  rw [relocating, outcome?_bind_ok outcome?_get, ask, relocate.eq_def]
  by_cases full : w.limit ≤ w.relocations
  · rw [if_pos full, if_pos full]
    rfl
  rw [if_neg full, if_neg full]
  cases aim with
  | next =>
    have searched := outcome?_searching h
    cases next : w.next? with
    | none =>
      rw [next] at searched
      have refused : outcome? (aiming .next) w = some (.error .noneRemaining, w) :=
        outcome?_bind_error searched
      rw [outcome?_bind_error refused]
    | some index =>
      rw [next] at searched
      have aimed : outcome? (aiming .next) w = some (.ok (index, none), w) :=
        outcome?_bind_ok searched
      rw [outcome?_bind_ok aimed]
      exact outcome?_going h.fits (h.lt_of_next? next) none
  | redirect address =>
    obtain ⟨_, fits, inside, _⟩ := (locate_found w address).marks h
    have aimed : outcome? (aiming (.redirect address)) w =
        some (.ok ((w.locate address).2.1, some (w.locate address).2.2), (w.locate address).1) :=
      outcome?_bind_ok (outcome?_locating h address)
    rw [outcome?_bind_ok aimed]
    exact outcome?_going fits inside _

end Outcomes

end Selector
end Failover
