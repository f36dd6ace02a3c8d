import Failover.Proofs.Limiter.Frame

/-!
# What a limiter learns from its reports

A specification of a limiter that says nothing of its state. The ends of permits are a list of
reports; the list is cut into blocks by its content and its times alone. The limit is the fold of
the rule over the windows of the blocks that are closed, and the window is that of the open one.
-/

namespace Failover

/-! ## Reports and blocks -/

/-- The end of a permit that tells something: a round trip, or none if the server dropped it, with
the permits that were out and the nanoseconds since the limiter was made. -/
structure Report where
  rtt : Option Span
  inFlight : Nat
  moment : Nat

namespace Report

def isDrop (r : Report) : Bool := r.rtt.isNone

/-- A window that has seen one more report. -/
def seenBy (w : Window) (r : Report) : Window :=
  match r.rtt with
  | some rtt => w.addSample rtt r.inFlight
  | none => w.addDrop r.inFlight

end Report

/-- The window of a block of reports. -/
def Window.ofBlock (block : List Report) : Window := block.foldl Report.seenBy .empty

namespace LimiterSettings

/-- Whether a block closes with its last report, told at this moment: it holds as many reports as a
window may, or a drop and no round trip, or the moment is not before the deadline. -/
def closes (s : LimiterSettings) (deadline moment : Nat) (block : List Report) : Bool :=
  max s.windowSamples.toNat 1 ≤ block.length ||
    (block.any (·.isDrop) && block.all (·.isDrop)) || deadline ≤ moment

/-- The deadline of a block that begins at a moment. -/
def due (s : LimiterSettings) (moment : Nat) : Nat :=
  Word64.clip (moment + max s.windowMs.toNat 1 * 1000000)

/-- The blocks that further reports close, and the one they leave open, after the reports of an
open block with this deadline. -/
def cut (s : LimiterSettings) (deadline : Nat) (block : List Report) :
    List Report → List (List Report) × List Report
  | [] => ([], block)
  | r :: rest =>
    if s.closes deadline r.moment (block ++ [r]) then
      let (closed, last) := cut s (s.due r.moment) [] rest
      ((block ++ [r]) :: closed, last)
    else cut s deadline (block ++ [r]) rest

/-- The limit after the windows of these blocks, one after another. -/
def limitAfter (s : LimiterSettings) (limit : Nat) (blocks : List (List Report)) : Nat :=
  blocks.foldl (fun limit block => (LimitRule.ofSettings s).update limit (.ofBlock block)) limit

/-- No report is lost, and none counts twice. -/
theorem flatten_cut (s : LimiterSettings) (deadline : Nat) (block rest : List Report) :
    (s.cut deadline block rest).1.flatten ++ (s.cut deadline block rest).2 = block ++ rest := by
  induction rest generalizing deadline block with
  | nil => simp [cut]
  | cons r rest ih =>
    rw [cut]
    by_cases closed : s.closes deadline r.moment (block ++ [r])
    · rw [if_pos closed]
      show (block ++ [r] ++ _) ++ _ = _
      rw [List.append_assoc, ih]
      simp
    · rw [if_neg closed, ih]
      simp

end LimiterSettings

/-! ## The life of a limiter -/

/-- What can happen to a limiter: it lends a permit, one comes back, or time passes. -/
inductive Turn where
  | grant
  | release (completion : Completion)
  | advance (span : Span)

namespace Turn

/-- A limiter and the clock after a turn. A permit is lent only if there is room, and one comes back
only if it is out. -/
def take? (turn : Turn) (c : Controller) (clock : Clock) : Option (Controller × Clock) :=
  match turn with
  | .grant => c.tryAcquire.map fun lent => (lent.1, clock)
  | .release completion =>
    if 0 < c.inFlight then some ((c.release clock completion).1, clock) else none
  | .advance span => some (c, clock.advance span)

/-- All of these turns in order. -/
def takeAll? : List Turn → Controller → Clock → Option (Controller × Clock)
  | [], c, clock => some (c, clock)
  | turn :: rest, c, clock => (turn.take? c clock).bind fun (d, later) => takeAll? rest d later

/-- The reports of these turns, after so many permits were lent and so much time has passed. -/
def reports (out elapsed : Nat) : List Turn → List Report
  | [] => []
  | .grant :: rest => reports (out + 1) elapsed rest
  | .release .ignored :: rest => reports (out - 1) elapsed rest
  | .release .dropped :: rest =>
    ⟨none, out, Word64.clip elapsed⟩ :: reports (out - 1) elapsed rest
  | .release (.success rtt) :: rest =>
    ⟨some rtt, out, Word64.clip elapsed⟩ :: reports (out - 1) elapsed rest
  | .advance span :: rest => reports out (elapsed + span.nanos) rest

end Turn

/-! ## Windows of blocks -/

namespace Window

/-- A window counts the round trips and the drops of its block. -/
theorem counts_foldl (block : List Report) (w : Window) :
    (block.foldl Report.seenBy w).samples = w.samples + block.countP (!·.isDrop) ∧
    (block.foldl Report.seenBy w).drops = w.drops + block.countP (·.isDrop) := by
  induction block generalizing w with
  | nil => exact ⟨rfl, rfl⟩
  | cons r rest ih =>
    obtain ⟨samples, drops⟩ := ih (Report.seenBy w r)
    rw [List.foldl_cons, samples, drops, List.countP_cons, List.countP_cons]
    obtain ⟨rtt, inFlight, moment⟩ := r
    cases rtt with
    | some rtt =>
      constructor
      · show w.samples + 1 + _ = w.samples + (_ + 1)
        omega
      · show w.drops + _ = w.drops + (_ + 0)
        omega
    | none =>
      constructor
      · show w.samples + _ = w.samples + (_ + 0)
        omega
      · show w.drops + 1 + _ = w.drops + (_ + 1)
        omega

theorem samples_ofBlock (block : List Report) :
    (ofBlock block).samples = block.countP (!·.isDrop) :=
  (counts_foldl block .empty).1.trans (Nat.zero_add _)

theorem drops_ofBlock (block : List Report) :
    (ofBlock block).drops = block.countP (·.isDrop) :=
  (counts_foldl block .empty).2.trans (Nat.zero_add _)

theorem events_ofBlock (block : List Report) : (ofBlock block).events = block.length := by
  rw [events, samples_ofBlock, drops_ofBlock, List.length_eq_countP_add_countP (·.isDrop)]
  simp only [Bool.not_eq_true, Bool.decide_eq_false]
  omega

theorem didDrop_ofBlock (block : List Report) :
    (ofBlock block).didDrop = block.any (·.isDrop) := by
  rw [didDrop, drops_ofBlock, Bool.eq_iff_iff]
  simp

theorem isDropOnly_ofBlock (block : List Report) :
    (ofBlock block).isDropOnly = (block.any (·.isDrop) && block.all (·.isDrop)) := by
  have unsampled : ((ofBlock block).samples == 0) = block.all (·.isDrop) := by
    rw [samples_ofBlock, Bool.eq_iff_iff]
    simp
  rw [isDropOnly, didDrop_ofBlock, unsampled]

theorem ofBlock_concat (block : List Report) (r : Report) :
    ofBlock (block ++ [r]) = r.seenBy (ofBlock block) := by
  rw [ofBlock, List.foldl_append]
  rfl

end Window

/-! ## The limiter keeps to its blocks -/

/-- A deadline that is reckoned from a length already cut off at the largest word is no other. -/
theorem Learning.due_eq (s : LimiterSettings) (moment : Nat) :
    (Learning.ofSettings s).due moment = s.due moment := by
  show min (moment + min (max s.windowMs.toNat 1 * 1000000) Word64.largest) Word64.largest =
    min (moment + max s.windowMs.toNat 1 * 1000000) Word64.largest
  omega

/-- A limiter looks at its window just as the specification looks at the block. -/
theorem Learning.closes_eq (s : LimiterSettings) (deadline moment : Nat) (block : List Report) :
    (Learning.ofSettings s).closes moment deadline (.ofBlock block) =
      s.closes deadline moment block := by
  rw [Learning.closes, LimiterSettings.closes, Window.isDropOnly_ofBlock, Window.events_ofBlock]
  show (_ || decide (max s.windowSamples.toNat 1 ≤ block.length) || _) = _
  rw [Bool.or_comm (block.any _ && block.all _)]

namespace Controller

variable {c d : Controller} {s : LimiterSettings} {deadline : Nat} {block : List Report}

/-- What a limiter keeps of its past while a block is open. -/
structure Follows (c : Controller) (s : LimiterSettings) (deadline : Nat) (block : List Report) :
    Prop where
  learning : c.learning = some (.ofSettings s)
  deadline_eq : c.deadline = deadline
  window_eq : c.window = .ofBlock block

/-- A limiter is born with an empty block, due one window after its birth. -/
theorem adaptive_follows (name : String) (s : LimiterSettings) (clock : Clock) :
    (adaptive name s clock).1.Follows s (s.due 0) [] where
  learning := rfl
  deadline_eq := by
    show Word64.clip (max s.windowMs.toNat 1 * 1000000) = Word64.clip (0 + _)
    rw [Nat.zero_add]
  window_eq := rfl

/-- Permits that are lent change nothing that a limiter has learned. -/
theorem Follows.inFlight (h : c.Follows s deadline block) (inFlight signals : Nat) :
    Follows { c with inFlight, signals } s deadline block :=
  ⟨h.learning, h.deadline_eq, h.window_eq⟩

/-- One more report goes into the open block. If that closes it, the limit is set by its window and
an empty block is opened, due one window later. -/
theorem Follows.observe {clock : Clock} {r : Report} (h : c.Follows s deadline block)
    (moment : c.now clock = r.moment) :
    if s.closes deadline r.moment (block ++ [r]) then
      (c.observe clock (Report.seenBy · r)).1.Follows s (s.due r.moment) [] ∧
      (c.observe clock (Report.seenBy · r)).1.limit = s.limitAfter c.limit [block ++ [r]]
    else
      (c.observe clock (Report.seenBy · r)).1.Follows s deadline (block ++ [r]) ∧
      (c.observe clock (Report.seenBy · r)).1.limit = c.limit := by
  -- limiter and specification judge the same block at the same moment
  have seen : Report.seenBy c.window r = .ofBlock (block ++ [r]) := by
    rw [h.window_eq, Window.ofBlock_concat]
  have due : (Learning.ofSettings s).closes (c.now clock) c.deadline (Report.seenBy c.window r) =
      s.closes deadline r.moment (block ++ [r]) := by
    rw [seen, moment, h.deadline_eq, Learning.closes_eq]
  have opened : c.observe clock (Report.seenBy · r) =
      if s.closes deadline r.moment (block ++ [r]) then
        roll { c with window := .ofBlock (block ++ [r]) } (.ofSettings s) r.moment
      else ({ c with window := .ofBlock (block ++ [r]) }, []) := by
    rw [Controller.observe, h.learning, ← due, ← seen, ← moment]
    rfl
  rw [opened]
  by_cases closes : s.closes deadline r.moment (block ++ [r])
  · rw [if_pos closes, if_pos closes]
    exact ⟨⟨h.learning, Learning.due_eq s r.moment, rfl⟩, rfl⟩
  · rw [if_neg closes, if_neg closes]
    exact ⟨⟨h.learning, h.deadline_eq, rfl⟩, rfl⟩

/-- The limiter after a report that it hears at a moment: the specification cuts the reports that
come after it as if they came after that one. -/
theorem Follows.cut_observe {clock : Clock} {r : Report} (h : c.Follows s deadline block)
    (moment : c.now clock = r.moment) (rest : List Report) :
    ∃ deadline' block',
      (c.observe clock (Report.seenBy · r)).1.Follows s deadline' block' ∧
      s.limitAfter (c.observe clock (Report.seenBy · r)).1.limit
          (s.cut deadline' block' rest).1 =
        s.limitAfter c.limit (s.cut deadline block (r :: rest)).1 ∧
      (s.cut deadline' block' rest).2 = (s.cut deadline block (r :: rest)).2 := by
  have observed := h.observe moment
  rw [LimiterSettings.cut]
  by_cases closes : s.closes deadline r.moment (block ++ [r])
  · rw [if_pos closes] at observed ⊢
    obtain ⟨follows, limit⟩ := observed
    refine ⟨_, _, follows, ?_, rfl⟩
    rw [limit]
    rfl
  · rw [if_neg closes] at observed ⊢
    obtain ⟨follows, limit⟩ := observed
    exact ⟨_, _, follows, by rw [limit], rfl⟩

end Controller

namespace Turn

variable {s : LimiterSettings}

/-- What a turn does, and when it can be taken. -/
theorem take?_cases {turn : Turn} {c d : Controller} {clock later : Clock}
    (took : turn.take? c clock = some (d, later)) :
    (turn = .grant ∧ c.inFlight < c.limit ∧ d = { c with inFlight := c.inFlight + 1 } ∧
      later = clock) ∨
    (∃ completion, turn = .release completion ∧ 0 < c.inFlight ∧
      d = (c.release clock completion).1 ∧ later = clock) ∨
    (∃ span, turn = .advance span ∧ d = c ∧ later = clock.advance span) := by
  cases turn with
  | grant =>
    obtain ⟨⟨_, events⟩, lent, same⟩ := Option.map_eq_some_iff.mp took
    cases same
    rw [Controller.tryAcquire] at lent
    split at lent
    · rename_i room
      cases lent
      exact .inl ⟨rfl, by simpa [Controller.hasRoom] using room, rfl, rfl⟩
    · cases lent
  | release completion =>
    simp only [take?] at took
    split at took
    · rename_i out
      cases took
      exact .inr (.inl ⟨completion, rfl, out, rfl, rfl⟩)
    · cases took
  | advance span =>
    cases took
    exact .inr (.inr ⟨span, rfl, rfl, rfl⟩)

/-- The moment of a limiter on a clock, if the time since it was made is known. -/
theorem now_eq {c : Controller} {clock : Clock} {elapsed : Nat}
    (age : clock.elapsed = c.created + elapsed) : c.now clock = Word64.clip elapsed := by
  show Word64.clip (clock.elapsed - c.created) = _
  rw [age, Nat.add_sub_cancel_left]

/-- Whatever turns are taken from a point on, the limiter goes on as its reports from there say. -/
theorem takeAll?_follows {turns : List Turn} {c d : Controller} {clock later : Clock}
    {deadline elapsed : Nat} {block : List Report} (follows : c.Follows s deadline block)
    (age : clock.elapsed = c.created + elapsed) (taken : takeAll? turns c clock = some (d, later)) :
    d.limit = s.limitAfter c.limit (s.cut deadline block (reports c.inFlight elapsed turns)).1 ∧
    d.window = .ofBlock (s.cut deadline block (reports c.inFlight elapsed turns)).2 := by
  -- the induction is on the turns, with whatever block is open where they start
  induction turns generalizing c clock deadline elapsed block with
  | nil =>
    cases taken
    exact ⟨rfl, follows.window_eq⟩
  | cons turn rest ih =>
    obtain ⟨⟨next, now⟩, took, onward⟩ := Option.bind_eq_some_iff.mp taken
    rcases take?_cases took with ⟨rfl, _, rfl, rfl⟩ | ⟨completion, rfl, _, rfl, rfl⟩ |
      ⟨span, rfl, rfl, rfl⟩
    · exact ih (follows.inFlight (c.inFlight + 1) c.signals) age onward
    · have frame := Controller.learn_frame c now completion
      have age' : now.elapsed = (c.release now completion).1.created + elapsed := by
        rw [Controller.created_release]
        exact age
      -- a permit that tells something is one report ahead of those that follow
      have heard : ∀ r : Report, r.moment = Word64.clip elapsed →
          (c.learn now completion).1 = (c.observe now (Report.seenBy · r)).1 →
          d.limit = s.limitAfter c.limit
            (s.cut deadline block (r :: reports (c.inFlight - 1) elapsed rest)).1 ∧
          d.window = .ofBlock
            (s.cut deadline block (r :: reports (c.inFlight - 1) elapsed rest)).2 := by
        intro r moment learned
        obtain ⟨deadline', block', follows', limit, last⟩ :=
          follows.cut_observe ((now_eq age).trans moment.symm)
            (reports (c.inFlight - 1) elapsed rest)
        rw [← learned] at follows' limit
        have after := ih (follows'.inFlight ((c.learn now completion).1.inFlight - 1)
          ((c.learn now completion).1.signals + 1)) age' onward
        rw [frame.1] at after
        rw [← limit, ← last]
        exact after
      cases completion with
      | ignored => exact ih (follows.inFlight (c.inFlight - 1) (c.signals + 1)) age' onward
      | dropped => exact heard _ rfl rfl
      | success rtt => exact heard _ rfl rfl
    · refine ih follows ?_ onward
      show clock.elapsed + span.nanos = next.created + (elapsed + span.nanos)
      omega

/-- A limiter refines its specification: whatever turns it has taken, its limit is the fold of the
rule over the windows of the closed blocks of their reports, from the first limit on, and its window
is that of the open block. Each report is in one block, in order, and a permit that comes back with
nothing to tell changes neither. -/
theorem adaptive_refines {name : String} {clock later : Clock} {turns : List Turn}
    {c : Controller} (taken : takeAll? turns (Controller.adaptive name s clock).1 clock =
      some (c, later)) :
    let blocks := s.cut (s.due 0) [] (reports 0 0 turns)
    c.limit = s.limitAfter ((LimitRule.ofSettings s).clamp s.initialLimit.toNat) blocks.1 ∧
    c.window = .ofBlock blocks.2 ∧
    blocks.1.flatten ++ blocks.2 = reports 0 0 turns ∧
    (c.release later .ignored).1.limit = c.limit ∧
    (c.release later .ignored).1.window = c.window := by
  intro blocks
  have follows := Controller.adaptive_follows name s clock
  obtain ⟨limit, window⟩ := takeAll?_follows follows (Nat.add_zero _).symm taken
  refine ⟨limit, window, s.flatten_cut _ _ _, ?_, ?_⟩
  · rw [Controller.release_ignored]
  · rw [Controller.release_ignored]

/-- A drop closes a block alone, and the round trip after it opens the next one. -/
theorem adaptive_refines_drop :
    let turns : List Turn := [.grant, .grant, .advance (.ofMillis 5), .release .dropped,
      .release (.success (.ofMillis 3))]
    ∃ c later, takeAll? turns (Controller.adaptive "orders" {} ⟨0, 0⟩).1 ⟨0, 0⟩ =
        some (c, later) ∧
      c.limit = (LimitRule.ofSettings {}).update 10 (.ofBlock [⟨none, 2, 5000000⟩]) ∧
      c.window = .ofBlock [⟨some (.ofMillis 3), 1, 5000000⟩] := by
  intro turns
  refine ⟨_, _, rfl, ?_⟩
  obtain ⟨limit, window, _⟩ := @adaptive_refines {} "orders" ⟨0, 0⟩ _ turns _ rfl
  exact ⟨limit, window⟩

end Turn

end Failover
