import Failover.Proofs.Endpoint.InPlace
import Failover.Proofs.Endpoint.Redirect
import Mathlib.Data.List.Induction

/-!
# Tours

A tour is a walk that is asked for one move after another, whether it can make them or not, together
with what it answered. The marks of the walk are the endpoints that its answers name, which is all
that a search for the next endpoint looks at; and each move is paid for by the count of moves, which
bounds the marks and the endpoints that were added.
-/

namespace Failover

namespace Selector

/-! ## Order -/

/-- What holds of a walk between moves. Marks and added endpoints are bounded by the moves made, and
no two of the added endpoints have one origin. -/
structure InOrder (w : Selector) : Prop where
  standing : w.IsStanding
  room : w.relocations ≤ w.limit
  added : w.added.length ≤ w.relocations
  visited : w.visitedCount ≤ w.relocations + 1
  apart : w.added.Pairwise fun u v => u.sameOrigin v = false

variable {w w' known : Selector} {aim : Relocation} {s : Selection} {address : Url} {index : Nat}
  {path : String}

theorem startingAt_inOrder (set : EndpointSet) (start limit : Nat) :
    (startingAt set start limit).InOrder where
  standing := startingAt_isStanding set start limit
  room := Nat.zero_le limit
  added := Nat.le_refl 0
  visited := by
    have inside : start % set.size < (List.replicate set.size false).length := by
      rw [List.length_replicate]
      exact Nat.mod_lt _ set.size_pos
    show ((List.replicate set.size false).set (start % set.size) true).count true ≤ 1
    rw [List.count_set inside]
    simp [List.count_replicate]
  apart := .nil

/-- A walk has been somewhere. -/
theorem IsStanding.visitedCount_pos (h : w.IsStanding) : 0 < w.visitedCount :=
  List.count_pos_iff.mpr (List.mem_of_getElem? (isVisited_iff.mp h.visited))

/-- A move sets one mark at most. -/
theorem visitedCount_moveTo (inside : index < w.visited.length) :
    (w.moveTo index).visitedCount ≤ w.visitedCount + 1 := by
  show (w.visited.set index true).count true ≤ w.visited.count true + 1
  rw [List.count_set inside]
  simp

/-- To find an address adds an endpoint at most, of an origin that none of those added before has,
and sets no mark. -/
theorem Found.counts (h : Found w address (known, index, path)) :
    known.added.length ≤ w.added.length + 1 ∧ known.visitedCount = w.visitedCount ∧
    ((w.added.Pairwise fun u v => u.sameOrigin v = false) →
      known.added.Pairwise fun u v => u.sameOrigin v = false) := by
  cases h with
  | known => exact ⟨Nat.le_succ _, rfl, id⟩
  | added => exact ⟨Nat.le_succ _, rfl, id⟩
  | new resolved fresh =>
    refine ⟨by simp, ?_, fun apart => List.pairwise_append.mpr ⟨apart, .cons nofun .nil, ?_⟩⟩
    · show (w.visited ++ [false]).count true = w.visited.count true
      simp
    · intro base among root hr
      rw [List.mem_singleton.mp hr, Bool.eq_false_iff]
      intro same
      have other := fresh base among
      rw [Url.sameOrigin_of_root same] at other
      cases other

theorem InOrder.move (h : w.InOrder) (move : Move w aim s w') : w'.InOrder := by
  have standing := (move.marks h.standing).2.1
  have added := h.added
  have visited := h.visited
  cases move with
  | next room untried =>
    have marks := visitedCount_moveTo (h.standing.lt_of_next? untried)
    refine ⟨standing, room, Nat.le_succ_of_le added, ?_, h.apart⟩
    exact Nat.le_trans marks (Nat.add_le_add_right visited 1)
  | @redirect address known index path room found =>
    obtain ⟨_, _, inside, _⟩ := found.marks h.standing
    obtain ⟨_, moves, limit⟩ := found.frame
    obtain ⟨more, same, apart⟩ := found.counts
    have marks := visitedCount_moveTo inside
    refine ⟨standing, ?_, ?_, ?_, apart h.apart⟩
    · show known.relocations + 1 ≤ known.limit
      omega
    · show known.added.length ≤ known.relocations + 1
      omega
    · show (known.moveTo index).visitedCount ≤ known.relocations + 1 + 1
      omega

theorem InOrder.ask (h : w.InOrder) (aim : Relocation) : (w.ask aim).2.InOrder := by
  rcases w.ask_cases aim with ⟨s, w', moved, asked⟩ | ⟨error, _, asked⟩
  · rw [asked]
    exact h.move (relocate_move moved)
  · rw [asked]
    exact h

/-! ## The next endpoint -/

/-- The endpoint of the set that stands `d` places behind the next one: round the ring from the
current one, or from the first one where the walk stands at an added endpoint. -/
def ahead (w : Selector) (d : Nat) : Nat :=
  if w.isKnown w.current then (w.current + 1 + d) % w.set.size else d

theorem ring_eq (w : Selector) : w.ring = (List.range w.set.size).map w.ahead := by
  have pos := w.set.size_pos
  rw [ring]
  refine List.map_congr_left fun d among => ?_
  have short := List.mem_range.mp among
  rw [ahead]
  split
  · rw [Nat.add_right_comm]
  · rw [Nat.add_right_comm, Nat.sub_add_cancel pos, Nat.add_mod_left, Nat.mod_eq_of_lt short]

/-- The next endpoint is the first ahead that has not been tried. -/
theorem exists_of_next? (h : w.next? = some index) :
    ∃ d < w.set.size, index = w.ahead d ∧ ¬w.isVisited index ∧
      ∀ d' < d, w.isVisited (w.ahead d') := by
  rw [next?, ring_eq, List.find?_map, Option.map_eq_some_iff] at h
  obtain ⟨d, found, rfl⟩ := h
  obtain ⟨untried, among, before⟩ := List.find?_range_eq_some.mp found
  refine ⟨d, List.mem_range.mp among, rfl, by simpa using untried, fun d' earlier => ?_⟩
  simpa using before d' earlier

/-! ## What was answered -/

/-- The moves that a walk was asked for, each with the answer. -/
abbrev Answers := List (Relocation × Except SelectionError Selection)

/-- The endpoints that were selected: the one at the start, and those that the answers name. -/
def selected (start : Nat) (answers : Answers) : List Nat :=
  start :: answers.filterMap fun entry => entry.2.toOption.map (·.index)

/-- The endpoints that were selected as next ones. -/
def nexts (answers : Answers) : List Nat :=
  answers.filterMap fun entry => if entry.1 = .next then entry.2.toOption.map (·.index) else none

/-- A walk that is asked for these moves one after another: the answers, and the walk at the end. -/
def askAll (w : Selector) (aims : List Relocation) : Answers × Selector :=
  aims.foldl (fun tour aim => (tour.1 ++ [(aim, (tour.2.ask aim).1)], (tour.2.ask aim).2)) ([], w)

theorem askAll_concat (w : Selector) (aims : List Relocation) (aim : Relocation) :
    w.askAll (aims ++ [aim]) =
      ((w.askAll aims).1 ++ [(aim, ((w.askAll aims).2.ask aim).1)],
        ((w.askAll aims).2.ask aim).2) := by
  simp [askAll, List.foldl_append]

section Answers

variable {start : Nat} {answers : Answers} {error : SelectionError}

theorem selected_concat_ok :
    selected start (answers ++ [(aim, .ok s)]) = selected start answers ++ [s.index] := by
  simp [selected, Except.toOption]

theorem selected_concat_error :
    selected start (answers ++ [(aim, .error error)]) = selected start answers := by
  simp [selected, Except.toOption]

theorem nexts_concat_ok :
    nexts (answers ++ [(.next, .ok s)]) = nexts answers ++ [s.index] := by
  simp [nexts, Except.toOption]

theorem nexts_concat_redirect {answer : Except SelectionError Selection} :
    nexts (answers ++ [(.redirect address, answer)]) = nexts answers := by
  simp [nexts]

theorem nexts_concat_error : nexts (answers ++ [(aim, .error error)]) = nexts answers := by
  simp [nexts, Except.toOption]

/-- Only endpoints that were selected are next ones. -/
theorem mem_selected_of_mem_nexts (h : index ∈ start :: nexts answers) :
    index ∈ selected start answers := by
  rcases List.mem_cons.mp h with rfl | among
  · exact List.mem_cons_self
  · obtain ⟨entry, listed, named⟩ := List.mem_filterMap.mp among
    split at named
    · exact List.mem_cons_of_mem start (List.mem_filterMap.mpr ⟨entry, listed, named⟩)
    · cases named

end Answers

/-! ## A whole tour -/

/-- What holds of a walk that began at an endpoint of the set, with the answers it has given. -/
structure OnTour (set : EndpointSet) (start limit : Nat) (answers : Answers) (w : Selector) :
    Prop where
  ofSet : w.set = set
  ofLimit : w.limit = limit
  inOrder : w.InOrder
  marks : ∀ i, w.isVisited i ↔ i ∈ selected (start % set.size) answers
  current : (selected (start % set.size) answers).getLast? = some w.current
  named : ∀ aim s, (aim, .ok s) ∈ answers → w.url? s.index = some s.base
  apart : (start % set.size :: nexts answers).Nodup
  inside : ∀ i ∈ nexts answers, i < set.size

variable {set : EndpointSet} {start limit : Nat} {answers : Answers}

theorem startingAt_onTour (set : EndpointSet) (start limit : Nat) :
    OnTour set start limit [] (startingAt set start limit) where
  ofSet := rfl
  ofLimit := rfl
  inOrder := startingAt_inOrder set start limit
  marks _ := startingAt_isVisited.trans List.mem_singleton.symm
  current := rfl
  named _ _ among := absurd among List.not_mem_nil
  apart := List.pairwise_singleton _ _
  inside _ among := absurd among List.not_mem_nil

namespace OnTour

/-- A next endpoint is one of the set that was not selected before. -/
theorem next (h : OnTour set start limit answers w) (untried : w.next? = some index) :
    index < set.size ∧ index ∉ selected (start % set.size) answers := by
  obtain ⟨_, _, _, unmarked, _⟩ := exists_of_next? untried
  exact ⟨h.ofSet ▸ lt_of_next? untried, fun among => unmarked ((h.marks index).mpr among)⟩

/-- A tour goes on with a move. -/
theorem move (h : OnTour set start limit answers w) (move : Move w aim s w') :
    OnTour set start limit (answers ++ [(aim, .ok s)]) w' := by
  obtain ⟨kept, _, marks⟩ := move.marks h.inOrder.standing
  obtain ⟨here, base⟩ := move.url?_index h.inOrder.standing
  -- the row says what becomes of the next endpoints and of the number of moves that are allowed
  have row : w'.limit = w.limit ∧
      (start % set.size :: nexts (answers ++ [(aim, .ok s)])).Nodup ∧
      ∀ i ∈ nexts (answers ++ [(aim, .ok s)]), i < set.size := by
    cases move with
    | @next index room untried =>
      obtain ⟨inside, fresh⟩ := h.next untried
      have unlisted : index ∉ start % set.size :: nexts answers :=
        fun among => fresh (mem_selected_of_mem_nexts among)
      rw [nexts_concat_ok]
      refine ⟨rfl, ?_, ?_⟩
      · rw [← List.cons_append, List.nodup_append]
        refine ⟨h.apart, by simp, ?_⟩
        rintro i among _ last rfl
        exact unlisted ((List.mem_singleton.mp last : i = index) ▸ among)
      · intro i among
        rcases List.mem_append.mp among with old | last
        · exact h.inside i old
        · rw [List.mem_singleton.mp last]
          exact inside
    | redirect room found =>
      rw [nexts_concat_redirect]
      exact ⟨found.frame.2.2, h.apart, h.inside⟩
  refine ⟨kept.set.trans h.ofSet, row.1.trans h.ofLimit, h.inOrder.move move, fun i => ?_, ?_, ?_,
    row.2.1, row.2.2⟩
  · rw [marks, h.marks, selected_concat_ok, here]
    simp
  · rw [selected_concat_ok, List.getLast?_concat, here]
  · intro aim' s' among
    rcases List.mem_append.mp among with old | last
    · exact kept.url? (h.named aim' s' old)
    · cases List.mem_singleton.mp last
      exact base

theorem ask (h : OnTour set start limit answers w) (aim : Relocation) :
    OnTour set start limit (answers ++ [(aim, (w.ask aim).1)]) (w.ask aim).2 := by
  rcases w.ask_cases aim with ⟨s, w', moved, asked⟩ | ⟨error, _, asked⟩
  · rw [asked]
    exact h.move (relocate_move moved)
  · rw [asked]
    refine ⟨h.ofSet, h.ofLimit, h.inOrder, ?_, ?_, ?_, ?_, ?_⟩
    · rw [selected_concat_error]
      exact h.marks
    · rw [selected_concat_error]
      exact h.current
    · intro aim' s' among
      rcases List.mem_append.mp among with old | last
      · exact h.named aim' s' old
      · cases List.mem_singleton.mp last
    · rw [nexts_concat_error]
      exact h.apart
    · rw [nexts_concat_error]
      exact h.inside

/-- Next endpoints are never the same, and none is the one at the start. -/
theorem length_nexts_lt (h : OnTour set start limit answers w) :
    (nexts answers).length < set.size := by
  have among : start % set.size :: nexts answers ⊆ List.range set.size := by
    intro i listed
    rw [List.mem_range]
    rcases List.mem_cons.mp listed with rfl | next
    · exact Nat.mod_lt _ set.size_pos
    · exact h.inside i next
  have fewer := List.Nodup.length_le_of_subset h.apart among
  rwa [List.length_cons, List.length_range] at fewer

end OnTour

theorem askAll_onTour (set : EndpointSet) (start limit : Nat) (aims : List Relocation) :
    OnTour set start limit ((startingAt set start limit).askAll aims).1
      ((startingAt set start limit).askAll aims).2 := by
  induction aims using List.reverseRecOn with
  | nil => exact startingAt_onTour set start limit
  | append_singleton aims aim ih =>
    rw [askAll_concat]
    exact ih.ask aim

theorem onTour_of_askAll {aims : List Relocation}
    (asked : (startingAt set start limit).askAll aims = (answers, w)) :
    OnTour set start limit answers w := by
  have tour := askAll_onTour set start limit aims
  rw [asked] at tour
  exact tour

/-- What a walk in order knows it goes on to know, whatever it is asked for. -/
theorem InOrder.askAll (h : w.InOrder) (aims : List Relocation) :
    (w.askAll aims).2.InOrder ∧ w.IsKeptBy (w.askAll aims).2 := by
  induction aims using List.reverseRecOn with
  | nil => exact ⟨h, rfl, id⟩
  | append_singleton aims aim ih =>
    obtain ⟨inOrder, kept⟩ := ih
    rw [askAll_concat]
    refine ⟨inOrder.ask aim, ?_⟩
    rcases (w.askAll aims).2.ask_cases aim with ⟨s, w', moved, asked⟩ | ⟨error, _, asked⟩
    · rw [asked]
      obtain ⟨further, _⟩ := (relocate_move moved).marks inOrder.standing
      exact ⟨further.set.trans kept.set, fun known => further.url? (kept.url? known)⟩
    · rw [asked]
      exact kept

/-! ## The main results -/

/-- Whatever moves a walk is asked for, it stays in order. It has a mark for every endpoint that it
knows, stands at a marked one, and has made no more moves than it may, with one mark and one added
endpoint at most for each, and no two added endpoints of one origin. Every index of a mark denotes a
URL, and goes on to denote it; an index that was answered denotes the URL that was answered with it.
In place, the next move finds whatever it looks up, comes to the same, and leaves everything as it
was if it is refused. -/
theorem tour_in_order {aims : List Relocation}
    (asked : (startingAt set start limit).askAll aims = (answers, w)) :
    w.set = set ∧ w.limit = limit ∧
    w.visited.length = set.size + w.added.length ∧
    w.current < w.visited.length ∧ w.visited[w.current]? = some true ∧
    w.relocations ≤ limit ∧ w.added.length ≤ w.relocations ∧
    1 ≤ w.visitedCount ∧ w.visitedCount ≤ w.relocations + 1 ∧
    w.added.Pairwise (fun u v => u.sameOrigin v = false) ∧
    (∀ aim s, (aim, .ok s) ∈ answers → w.url? s.index = some s.base) ∧
    (∀ i < w.visited.length, ∃ u, w.url? i = some u ∧
      ∀ more, (w.askAll more).2.url? i = some u) ∧
    ∀ aim, ∃ answer w', outcome? (relocating aim) w = some (answer, w') ∧
      w.ask aim = (answer, w') ∧ ∀ error, answer = .error error → w' = w := by
  have tour := onTour_of_askAll asked
  have inOrder := tour.inOrder
  have standing := inOrder.standing
  have here := isVisited_iff.mp standing.visited
  refine ⟨tour.ofSet, tour.ofLimit, tour.ofSet ▸ standing.fits,
    (List.getElem?_eq_some_iff.mp here).1, here, tour.ofLimit ▸ inOrder.room, inOrder.added,
    standing.visitedCount_pos, inOrder.visited, inOrder.apart, tour.named, ?_, ?_⟩
  · intro i inside
    obtain ⟨u, known⟩ := standing.exists_url? inside
    exact ⟨u, known, fun more => (inOrder.askAll more).2.url? known⟩
  · intro aim
    exact ⟨_, _, outcome?_relocating standing aim, rfl, fun error refused => (ask_error refused).2⟩

/-- An endpoint by the name of its host. -/
def hosted (host : String) : Url :=
  ⟨"http".toList, some ⟨[], none, .domain host.toList, none⟩, .rooted [[]], none, none⟩

/-- Three endpoints. -/
def trio : EndpointSet := ⟨["a", "b", "c"].map hosted, List.cons_ne_nil _ _⟩

/-- Two redirects to one host add it once. From there the walk goes on to the first endpoint, and
then it has made all its moves. -/
theorem tour_in_order_elsewhere :
    ∃ answers w, (startingAt trio 4 3).askAll
        [.redirect (hosted "d"), .redirect { hosted "d" with query := some [] }, .next, .next] =
          (answers, w) ∧
      selected 1 answers = [1, 3, 3, 0] ∧ w.added.length = 1 ∧ w.visited.length = 3 + 1 ∧
      w.relocations ≤ 3 ∧ (w.ask .next).1 = .error (.limitExceeded 3) ∧ (w.ask .next).2 = w ∧
      ∀ i < w.visited.length, ∃ u, w.url? i = some u ∧
        ∀ more, (w.askAll more).2.url? i = some u := by
  let aims : List Relocation :=
    [.redirect (hosted "d"), .redirect { hosted "d" with query := some [] }, .next, .next]
  have seen : selected 1 ((startingAt trio 4 3).askAll aims).1 = [1, 3, 3, 0] ∧
      ((startingAt trio 4 3).askAll aims).2.added.length = 1 ∧
      (((startingAt trio 4 3).askAll aims).2.ask .next).1 = .error (.limitExceeded 3) := by
    decide +kernel
  generalize asked : (startingAt trio 4 3).askAll aims = tour at seen
  obtain ⟨answers, w⟩ := tour
  obtain ⟨named, once, refused⟩ := seen
  obtain ⟨_, _, fits, _, _, moves, _, _, _, _, _, kept, answered⟩ := tour_in_order asked
  obtain ⟨answer, w', _, next, same⟩ := answered .next
  rw [next] at refused
  refine ⟨answers, w, rfl, named, once, once ▸ fits, moves, ?_, ?_, kept⟩
  · rw [next]
    exact refused
  · rw [next]
    exact same _ refused

/-- A search for the next endpoint goes on until all endpoints of the set were selected, and no
longer. While the walk has a move left, one is found exactly if one of the set was not selected yet,
by a search or by a redirect; it is the first such one ahead of the walk. So a walk goes on to a next
endpoint less often than the set has endpoints, and one that finds none left has been to all. -/
theorem next_once_round {aims : List Relocation}
    (asked : (startingAt set start limit).askAll aims = (answers, w)) :
    (nexts answers).length ≤ set.size - 1 ∧
    (selected (start % set.size) answers).getLast? = some w.current ∧
    (w.relocations < limit → ((∃ s, (w.ask .next).1 = .ok s) ↔
      ∃ i < set.size, i ∉ selected (start % set.size) answers)) ∧
    (∀ s, (w.ask .next).1 = .ok s →
      set.get? s.index = some s.base ∧ s.path = none ∧
      s.index ∉ selected (start % set.size) answers ∧
      ∃ d < set.size, s.index = w.ahead d ∧
        ∀ d' < d, w.ahead d' ∈ selected (start % set.size) answers) ∧
    ((w.ask .next).1 = .error .noneRemaining →
      ∀ i < set.size, i ∈ selected (start % set.size) answers) := by
  have tour := onTour_of_askAll asked
  have none_iff : w.next? = none ↔ ∀ i < set.size, i ∈ selected (start % set.size) answers := by
    rw [next?_eq_none_iff, tour.ofSet]
    exact forall₂_congr fun i _ => tour.marks i
  refine ⟨Nat.le_sub_one_of_lt tour.length_nexts_lt, tour.current, ?_, ?_, ?_⟩
  · intro room
    have left : ¬w.limit ≤ w.relocations := by
      rw [tour.ofLimit]
      omega
    have untried : (∃ i < set.size, i ∉ selected (start % set.size) answers) ↔ w.next? ≠ none := by
      rw [Ne, none_iff]
      push Not
      rfl
    rw [untried, ask, relocate.eq_def, if_neg left]
    cases w.next? with
    | none => simp
    | some index => simp
  · intro s found
    obtain ⟨w', moved⟩ := ask_ok found
    have move := relocate_move moved
    obtain ⟨_, base⟩ := move.url?_index tour.inOrder.standing
    cases move with
    | @next index room next =>
      obtain ⟨inside, fresh⟩ := tour.next next
      obtain ⟨d, short, at', _, before⟩ := exists_of_next? next
      have listed : set.get? index = some (w.moveTo index).currentUrl := by
        rw [EndpointSet.get?, ← tour.ofSet, ← List.getElem?_append_left (tour.ofSet.symm ▸ inside)]
        exact base
      exact ⟨listed, rfl, fresh, d, tour.ofSet ▸ short, at', fun d' earlier =>
        (tour.marks _).mp (before d' earlier)⟩
  · intro refused
    rcases relocate_error (ask_error refused).1 with ⟨other, _⟩ | ⟨_, _, _, complete⟩
    · cases other
    · exact none_iff.mp complete

/-- After a redirect to another host, the search begins with the first endpoint; from there it
passes over the endpoint at the start. -/
theorem next_once_round_elsewhere :
    ∃ answers w s, (startingAt trio 1 3).askAll [.redirect (hosted "d"), .next] = (answers, w) ∧
      w.relocations < 3 ∧ selected 1 answers = [1, 3, 0] ∧ (nexts answers).length ≤ 2 ∧
      (w.ask .next).1 = .ok s ∧ s.index = 2 ∧ trio.get? 2 = some s.base ∧
      ∃ i < 3, i ∉ selected 1 answers := by
  let aims : List Relocation := [.redirect (hosted "d"), .next]
  have seen : ((startingAt trio 1 3).askAll aims).2.relocations < 3 ∧
      selected 1 ((startingAt trio 1 3).askAll aims).1 = [1, 3, 0] ∧
      (((startingAt trio 1 3).askAll aims).2.ask .next).1 = .ok ⟨2, hosted "c", none⟩ := by
    decide +kernel
  generalize asked : (startingAt trio 1 3).askAll aims = tour at seen
  obtain ⟨answers, w⟩ := tour
  obtain ⟨room, named, found⟩ := seen
  obtain ⟨fewer, _, some', next, _⟩ := next_once_round asked
  exact ⟨answers, w, _, rfl, room, named, fewer, found, rfl, (next _ found).1,
    (some' room).mp ⟨_, found⟩⟩

end Selector
end Failover
