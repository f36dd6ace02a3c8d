import Failover.Proofs.Call.Permits
import Failover.Proofs.Call.Reports
import Mathlib.Data.List.Induction

/-!
# The preferred endpoint

The calls of an engine leave the endpoint to start from for each other. A call leaves its endpoint
exactly when an attempt ends that was answered with success, and only if the endpoint is one of the
set: so the preferred endpoint is the last one in the journal that served an attempt. A call looks
at it once, when it begins, and its first attempt goes there, whatever happens in between.
-/

namespace Failover

variable {e : Engine}

/-! ## What is served -/

/-- The endpoint of the set that served an attempt of a call, if this event is the finish of one
that was answered with success. -/
def served? (e : Engine) (c : Call) : Event → Option Nat
  | .attemptFinished _ _ record =>
    if record.status.any (·.isSuccess) ∧ c.selector.current < e.endpoints.size then
      some c.selector.current
    else none
  | _ => none

/-- The endpoints of the set that served attempts, in the order of a journal which tells with each
event how the call stood. -/
def served (e : Engine) (journal : List (Call × Event)) : List Nat :=
  journal.filterMap fun entry => served? e entry.1 entry.2

@[simp] theorem served_append (journal later : List (Call × Event)) :
    served e (journal ++ later) = served e journal ++ served e later := List.filterMap_append ..

theorem served_singleton (c : Call) (event : Event) :
    served e [(c, event)] = (served? e c event).toList := by
  cases h : served? e c event <;> simp [served, h]

theorem served?_eq_some_iff {c : Call} {event : Event} {i : Nat} :
    served? e c event = some i ↔
      ∃ observer context record, event = .attemptFinished observer context record ∧
        record.status.any (·.isSuccess) ∧ i < e.endpoints.size ∧ i = c.selector.current := by
  constructor
  · intro h
    cases event with
    | attemptFinished observer context record =>
      simp only [served?] at h
      split at h
      · rename_i known
        cases h
        exact ⟨observer, context, record, rfl, known.1, known.2, rfl⟩
      · cases h
    | _ => cases h
  · rintro ⟨observer, context, record, rfl, success, known, rfl⟩
    exact if_pos ⟨success, known⟩

theorem lt_of_mem_served {journal : List (Call × Event)} {i : Nat} (h : i ∈ served e journal) :
    i < e.endpoints.size := by
  obtain ⟨entry, _, served⟩ := List.mem_filterMap.mp h
  obtain ⟨_, _, _, _, _, known, _⟩ := served?_eq_some_iff.mp served
  exact known

/-- Only reports tell that an attempt was served. -/
theorem served_reported (c : Call) (events : List Event) :
    served e (events.map (c, ·)) = served e ((reported events).map (c, ·)) := by
  have silent : ∀ event : Event, event.isReport = false → served? e c event = none := by
    intro event
    cases event <;> simp [Event.isReport, served?]
  induction events with
  | nil => rfl
  | cons event events ih =>
    rw [reported] at ih ⊢
    cases tells : event.isReport
    · rw [List.filter_cons_of_neg (by simp [tells]), ← ih]
      exact List.filterMap_cons_none (silent event tells)
    · rw [List.filter_cons_of_pos tells]
      show served e ([(c, event)] ++ events.map (c, ·)) = served e ([(c, event)] ++ _)
      rw [served_append, served_append, ih]

/-- A call serves where it stands, whatever else it remembers. -/
theorem served_congr {c d : Call} (same : d.selector = c.selector) (events : List Event) :
    served e (events.map (d, ·)) = served e (events.map (c, ·)) := by
  have each : served? e d = served? e c := by
    funext event
    unfold served?
    rw [same]
  rw [served, served, List.filterMap_map, List.filterMap_map]
  exact congrArg (fun f => events.filterMap f) each

/-- The last of the endpoints that were marked is preferred. -/
theorem Preferred.index_foldl_mark {set : EndpointSet} (p : Preferred set) {marks : List Nat}
    (inside : ∀ i ∈ marks, i < set.size) :
    (marks.foldl mark p).index = marks.getLast?.getD p.index := by
  induction marks using List.reverseRecOn with
  | nil => rfl
  | append_singleton marks i _ =>
    have bound : i < set.size := inside i (by simp)
    rw [List.foldl_append, List.getLast?_concat]
    show (mark (marks.foldl mark p) i).index = i
    rw [mark, dif_pos bound]

/-- The record of an attempt tells of a success exactly if the attempt came to one. -/
theorem Exchange.isSuccess_iff (x : Exchange) :
    x.record.status.any (·.isSuccess) = true ↔ x.outcome.verdict = .success := by
  rw [record, outcome]
  cases x.result with
  | error error =>
    cases error <;> simp [Except.toOption, Outcome.of, Outcome.ofError, Outcome.verdict]
  | ok r =>
    simp only [Except.toOption, Option.map_some, Option.any_some, Outcome.of, Outcome.ofResponse]
    split
    · rename_i success
      simp [success, Outcome.verdict]
    · rename_i unsuccessful
      simp only [unsuccessful]
      repeat' split
      all_goals simp [Outcome.verdict]

/-! ## One step -/

/-- A move stays on the set. -/
theorem Selector.Move.set {w w' : Selector} {aim : Relocation} {selection : Selection}
    (move : Move w aim selection w') : w'.set = w.set := by
  cases move with
  | next room untried => rfl
  | redirect room found => exact found.frame.1

namespace Session

variable {clock : Clock} {s t a : Session e.endpoints} {url : Url} {front events : List Event}

/-- After an attempt the endpoint where it was made is marked if it was a success. -/
theorem follow_preferred (drawn : Nat) (set : s.call.selector.set = e.endpoints)
    (outcome : Outcome) :
    (follow e drawn s outcome).1.shared.preferred =
      if outcome.verdict = .success then s.shared.preferred.mark s.call.selector.current
      else s.shared.preferred := by
  cases outcome with
  | success response =>
    show (if s.call.selector.isKnown s.call.selector.current = true then _ else _) = _
    rw [if_pos (show Outcome.verdict (.success response) = .success from rfl)]
    by_cases known : s.call.selector.current < e.endpoints.size
    · rw [if_pos (by rw [Selector.isKnown, set]; exact decide_eq_true known)]
    · rw [if_neg (by rw [Selector.isKnown, set]; simpa using known), Preferred.mark, dif_neg known]
  | _ => rfl

/-- The end of an attempt prefers the endpoint that it tells to have served. -/
theorem settle_preferred {drawn started : Nat} {result : Except TransportError Response}
    (set : s.call.selector.set = e.endpoints)
    (settled : settle e clock drawn s url started result = (t, events)) :
    t.call.selector = s.call.selector ∧
    t.shared.preferred =
      (served e (events.map (s.call, ·))).foldl Preferred.mark s.shared.preferred := by
  obtain ⟨_, told⟩ := settle_reported ⟨s.call.request, none, s.call.context⟩ settled
  obtain ⟨x, made, rfl, _⟩ := settle_follow settled
  rw [← made] at told
  have finish : served e (events.map (s.call, ·)) =
      (served? e s.call (.attemptFinished e.observer s.call.context x.record)).toList := by
    rw [served_reported, told]
    exact served_singleton ..
  refine ⟨congrArg (·.selector) (follow_call_frame drawn (s.told x) _), ?_⟩
  rw [finish, follow_preferred (s := s.told x) drawn set]
  by_cases success : x.outcome.verdict = .success
  · have status := x.isSuccess_iff.mpr success
    rw [if_pos success]
    by_cases known : s.call.selector.current < e.endpoints.size
    · rw [served?, if_pos ⟨status, known⟩]
      rfl
    · rw [served?, if_neg (by simp [known]), Preferred.mark]
      exact dif_neg known
  · have status : ¬x.record.status.any (·.isSuccess) = true := mt x.isSuccess_iff.mp success
    rw [if_neg success, served?, if_neg (by simp [status])]
    rfl

/-- A session that asks for a permit stands where it stood, and has told nothing of it. -/
theorem Asks.stands (asks : Asks s a url front) :
    a.call.selector = s.call.selector ∧ a.call.path = s.call.path ∧ a.shared = s.shared ∧
      reported front = [] := by
  cases asks <;> exact ⟨rfl, rfl, rfl, rfl⟩

/-- Every step prefers the endpoint that it tells to have served, if any, and no other. -/
theorem Transition.preferred (row : Transition e clock s t events)
    (set : s.call.selector.set = e.endpoints) :
    t.call.selector.set = e.endpoints ∧
    t.shared.preferred =
      (served e (events.map (s.call, ·))).foldl Preferred.mark s.shared.preferred := by
  -- a step whose reports serve nothing has to leave the preferred endpoint alone
  have unserved : ∀ reports, reported events = reports →
      served e (reports.map (s.call, ·)) = [] → t.shared.preferred = s.shared.preferred →
      t.shared.preferred =
        (served e (events.map (s.call, ·))).foldl Preferred.mark s.shared.preferred := by
    intro reports told nothing same
    rw [served_reported, told, nothing, same]
    rfl
  cases row with
  | begins stands => exact ⟨set, rfl⟩
  | unreadable stands bad => exact ⟨set, rfl⟩
  | waits asks answer =>
    obtain ⟨walk, _, shared, front⟩ := asks.stands
    refine ⟨walk ▸ set, unserved [] ?_ rfl (congrArg (·.preferred) shared)⟩
    simp only [reported_append, front, reported_acquire answer, List.append_nil]
  | @refused a _ _ _ _ _ error _ call _ asks answer retried =>
    obtain ⟨walk, _, shared, front⟩ := asks.stands
    obtain ⟨_, _, _, silent⟩ := Call.retry_silent retried
    have kept : call.selector = a.call.selector :=
      congrArg (·.selector) (Call.eq_of_retry retried)
    refine ⟨?_, unserved [.attemptRefused a.call.attempts a.call.endpoint error,
      .attemptRecorded a.call.refusal Span.zero] ?_ rfl (congrArg (·.preferred) shared)⟩
    · show call.selector.set = e.endpoints
      rw [kept, walk, set]
    · simp only [reported_append, front, reported_acquire answer, silent]
      rfl
  | @sends a url _ _ _ request asks answer built =>
    obtain ⟨walk, _, shared, front⟩ := asks.stands
    refine ⟨walk ▸ set, unserved [startEvent e a url, .requestSent request] ?_ rfl
      (congrArg (·.preferred) shared)⟩
    simp only [reported_append, front, reported_acquire answer]
    rfl
  | @unsendable a _ url _ _ more c _ _ asks answer bad settled =>
    obtain ⟨walk, _, shared, front⟩ := asks.stands
    have asked : (a.withLimiter c).call.selector = s.call.selector := walk
    obtain ⟨kept, preferred⟩ := settle_preferred (asked ▸ set) settled
    refine ⟨by rw [kept, asked, set], ?_⟩
    have starts : reported (startEvent e a url :: more) = startEvent e a url :: reported more := rfl
    rw [served_reported, reported_append, reported_append, front, reported_acquire answer, starts]
    show _ = (served e ((reported more).map (s.call, ·))).foldl Preferred.mark s.shared.preferred
    rw [← served_reported, ← served_congr asked, ← shared]
    exact preferred
  | hears stands settled =>
    obtain ⟨walk, preferred⟩ := settle_preferred set settled
    exact ⟨walk ▸ set, preferred⟩
  | relocates stands moved =>
    refine ⟨?_, unserved [] (reported_capping _) rfl rfl⟩
    show _ = e.endpoints
    rw [(Selector.relocate_move moved).set, set]
  | stranded stands stuck => exact ⟨set, rfl⟩
  | backsOff stands => exact ⟨set, rfl⟩
  | resumes stands due => exact ⟨set, rfl⟩
  | succeeds stands => exact ⟨set, rfl⟩
  | fails stands => exact ⟨set, rfl⟩

/-! ## The first attempt -/

/-- What a step may tell of where attempts are made: one starts at the endpoint of a session that
asks for a permit, and has finished at the endpoint where the call stood. -/
def Places (s : Session e.endpoints) : Event → Prop
  | .attemptStarted _ _ number url endpoint =>
    ∃ a front, Asks s a url front ∧ number = a.call.attempts ∧ endpoint = a.call.endpoint
  | .attemptFinished _ _ record => record.endpoint = s.call.endpoint.text
  | _ => True

/-- Nothing but reports tells where an attempt is made. -/
theorem places_of_reported (reports : List Event) (told : reported events = reports)
    (placed : ∀ event ∈ reports, s.Places event) : ∀ event ∈ events, s.Places event := by
  intro event among
  cases tells : event.isReport with
  | true => exact placed event (told ▸ List.mem_filter.mpr ⟨among, tells⟩)
  | false => cases event <;> trivial

theorem Transition.places (row : Transition e clock s t events) :
    ∀ event ∈ events, s.Places event := by
  have silent : reported events = [] → ∀ event ∈ events, s.Places event :=
    fun none => places_of_reported [] none (by simp)
  cases row with
  | waits asks answer =>
    obtain ⟨_, _, _, front⟩ := asks.stands
    exact silent (by simp only [reported_append, front, reported_acquire answer, List.append_nil])
  | @refused a _ _ _ _ _ error _ _ _ asks answer retried =>
    obtain ⟨_, _, _, front⟩ := asks.stands
    obtain ⟨_, _, _, quiet⟩ := Call.retry_silent retried
    refine places_of_reported [.attemptRefused a.call.attempts a.call.endpoint error,
      .attemptRecorded a.call.refusal Span.zero] ?_ (by simp [Places])
    simp only [reported_append, front, reported_acquire answer, quiet]
    rfl
  | @sends a url _ _ _ request asks answer built =>
    obtain ⟨_, _, _, front⟩ := asks.stands
    refine places_of_reported [startEvent e a url, .requestSent request] ?_ ?_
    · simp only [reported_append, front, reported_acquire answer]
      rfl
    · simp only [List.forall_mem_cons]
      exact ⟨⟨a, _, asks, rfl, rfl⟩, trivial, by simp⟩
  | @unsendable a _ url _ _ more c error _ asks answer bad settled =>
    obtain ⟨walk, _, _, front⟩ := asks.stands
    obtain ⟨_, told⟩ := settle_reported ⟨a.call.request, none, a.call.context⟩ settled
    refine places_of_reported (startEvent e a url :: reported more) ?_ ?_
    · simp only [reported_append, front, reported_acquire answer]
      rfl
    · have here : a.call.endpoint.text = s.call.endpoint.text :=
        congrArg (·.currentUrl.text) walk
      rw [told]
      simp only [List.forall_mem_cons]
      exact ⟨⟨a, _, asks, rfl, rfl⟩, trivial, trivial, here, by simp⟩
  | hears stands settled =>
    obtain ⟨_, told⟩ := settle_reported ⟨s.call.request, none, s.call.context⟩ settled
    refine places_of_reported _ told ?_
    simp only [List.forall_mem_cons]
    exact ⟨trivial, trivial, rfl, by simp⟩
  | relocates stands moved => exact silent (reported_capping _)
  | _ => simp [Places]

/-- How a call that began as `first` stands until its first attempt has a permit: where it began.
The endpoints tried begin there, and an attempt with the number one has started there. -/
structure Opens (first s : Session e.endpoints) (tried : List Nat) (log : List (Nat × Event)) :
    Prop where
  chronicle : s.Chronicle tried
  untried : s.call.attempts = 0 →
    s.call.selector = first.call.selector ∧ s.call.path = first.call.path
  waiting : ∀ {url : Url} {signals : Nat}, s.point = .waiting url signals → s.call.attempts = 1 →
    s.call.selector = first.call.selector ∧
      Url.parse (target first.call.endpoint first.call.path) = .ok url
  head : ∀ i ∈ tried.head?, i = first.call.selector.current
  started : ∀ {moment : Nat} {observer : Observer} {context : CallContext} {url endpoint : Url},
    (moment, .attemptStarted observer context 1 url endpoint) ∈ log →
      endpoint = first.call.endpoint ∧
        Url.parse (target first.call.endpoint first.call.path) = .ok url

variable {first : Session e.endpoints} {tried : List Nat} {log : List (Nat × Event)}

/-- A session that asks for the permit of its first attempt stands where it began. -/
theorem Opens.asks (h : Opens first s tried log) (asks : Asks s a url front)
    (one : a.call.attempts = 1) :
    a.call.selector = first.call.selector ∧
      Url.parse (target first.call.endpoint first.call.path) = .ok url := by
  cases asks with
  | anew stands read =>
    obtain ⟨walk, path⟩ := h.untried (Nat.succ.inj one)
    have here : s.call.endpoint = first.call.endpoint := congrArg (·.currentUrl) walk
    rw [here, path] at read
    exact ⟨walk, read⟩
  | again stands => exact h.waiting stands one

/-- A step that neither begins an attempt nor ends one leaves the call what it was. -/
theorem Transition.call_eq (row : Transition e clock s t events) (idle : s.point.underWay = 0)
    (still : s.begins = []) : t.call = s.call := by
  have unasked : ∀ {a url front}, Asks s a url front → False := by
    intro a url front asks
    cases asks with
    | anew stands read => simp [Session.begins, stands] at still
    | again stands => simp [Point.underWay, stands] at idle
  cases row with
  | begins stands => rfl
  | unreadable stands bad => simp [Session.begins, stands] at still
  | waits asks answer => exact (unasked asks).elim
  | refused asks answer retried => exact (unasked asks).elim
  | sends asks answer built => exact (unasked asks).elim
  | unsendable asks answer bad settled => exact (unasked asks).elim
  | hears stands settled => simp [Point.underWay, stands] at idle
  | relocates stands moved => simp [Point.underWay, stands] at idle
  | _ => rfl

theorem Opens.step (h : Opens first s tried log) (row : Transition e clock s t events) :
    Opens first t (tried ++ s.begins) (log ++ events.map (clock.elapsed, ·)) := by
  have chronicle := row.chronicle h.chronicle
  have attempts := h.chronicle.trail.attempts
  refine ⟨chronicle, ?_, ?_, ?_, ?_⟩
  · intro none
    have count := chronicle.trail.attempts
    rw [none, List.length_append] at count
    have untried : s.call.attempts = 0 := by omega
    have idle : s.point.underWay = 0 := by
      have := h.chronicle.booked.books.attempts
      omega
    rw [row.call_eq idle (List.eq_nil_of_length_eq_zero (by omega))]
    exact h.untried untried
  · intro url signals stands one
    -- an attempt that ends is gone on from, so that the call waits only if it was told to
    cases row with
    | waits asks answer =>
      cases stands
      have opens := h.asks asks one
      exact opens
    | hears _ settled =>
      obtain ⟨phase, enters⟩ := settle_enters settled
      cases enters.symm.trans stands
    | unsendable _ _ _ settled =>
      obtain ⟨phase, enters⟩ := settle_enters settled
      cases enters.symm.trans stands
    | _ => cases stands
  · intro i among
    rw [List.head?_append] at among
    cases tried with
    | cons j _ => exact h.head i among
    | nil =>
      obtain ⟨walk, _⟩ := h.untried attempts.symm
      change i ∈ s.begins.head? at among
      unfold begins at among
      split at among
      · cases among
        rw [walk]
      · cases among
  · intro moment observer context url endpoint among
    rcases List.mem_append.mp among with before | now
    · exact h.started before
    · obtain ⟨event, told, same⟩ := List.mem_map.mp now
      cases same
      obtain ⟨a, front, asks, one, here⟩ := row.places _ told
      obtain ⟨walk, read⟩ := h.asks asks one.symm
      exact ⟨here.trans (congrArg (·.currentUrl) walk), read⟩

theorem start_opens (clock : Clock) (shared : Shared e.endpoints) (o : CallOptions) :
    Opens (start e clock shared o).1 (start e clock shared o).1 [] [] :=
  ⟨start_chronicle e clock shared o, fun _ => ⟨rfl, rfl⟩, nofun, nofun, nofun⟩

theorem Course.opens {shared : Shared e.endpoints} {o : CallOptions}
    (course : Course e (start e clock shared o).1 t tried log) :
    Opens (start e clock shared o).1 t tried log := by
  refine course.induction (start_opens clock shared o) ?_ fun row h => h.step row
  intro s tried log change h
  exact ⟨⟨h.chronicle.booked.shared change, h.chronicle.story, h.chronicle.trail⟩, h.untried,
    h.waiting, h.head, h.started⟩

end Session

/-! ## Many calls -/

namespace Crowd

variable {g : Crowd e} {journal : List (Call × Event)}

/-- What the calls of an engine can come to when nobody but them touches the preferred endpoint,
with the journal of what they told: each event with the call that told it, as it stood before. What
others do to the limiters is left open. -/
inductive Tale : Crowd e → List (Call × Event) → Prop
  | opens (limiters : Limiters) : Tale ⟨⟨.first e.endpoints, limiters⟩, [], []⟩ []
  | begins {g : Crowd e} {journal : List (Call × Event)} {s : Session e.endpoints}
      {events : List Event} (tale : Tale g journal) (clock : Clock) (o : CallOptions)
      (started : Session.start e clock g.shared o = (s, events)) :
      Tale { g with shared := s.shared, calls := (s.call, s.point) :: g.calls }
        (journal ++ events.map (s.call, ·))
  | moves {g : Crowd e} {journal : List (Call × Event)} {clock : Clock}
      {before after : List (Call × Point)} {c : Call × Point} {s : Session e.endpoints}
      {events : List Event} (tale : Tale g journal) (among : g.calls = before ++ c :: after)
      (step : Session.Step e clock (g.session c) s events) :
      Tale { g with shared := s.shared, calls := before ++ (s.call, s.point) :: after }
        (journal ++ events.map (c.1, ·))
  | cancels {g : Crowd e} {journal : List (Call × Event)} {before after : List (Call × Point)}
      {c : Call × Point} (tale : Tale g journal) (clock : Clock)
      (among : g.calls = before ++ c :: after) :
      Tale { g with
          shared := (Session.cancel e clock (g.session c)).1, calls := before ++ after }
        (journal ++ (Session.cancel e clock (g.session c)).2.map (c.1, ·))
  | others {g : Crowd e} {journal : List (Call × Event)} (tale : Tale g journal)
      (limiters : Limiters) (held : List String) :
      Tale { g with shared := { g.shared with limiters }, held } journal

/-- Whatever a crowd comes to, there is a tale of it. -/
theorem Reaches.exists_tale (reached : Reaches (fresh (.first e.endpoints)) g) :
    ∃ journal, Tale g journal := by
  induction reached with
  | refl => exact ⟨_, .opens _⟩
  | tail _ step ih =>
    obtain ⟨journal, tale⟩ := ih
    cases step with
    | begins clock o started => exact ⟨_, tale.begins clock o started⟩
    | moves among step => exact ⟨_, tale.moves among step⟩
    | cancels clock among => exact ⟨_, tale.cancels clock among⟩
    | looksUp clock key => exact ⟨_, tale.others _ _⟩
    | borrows clock key answered => exact ⟨_, tale.others _ _⟩
    | returns clock key completion holds => exact ⟨_, tale.others _ _⟩

/-- What an event of the journal tells of an endpoint that served. -/
def Serves (e : Engine) (event : Event) (i : Nat) : Prop :=
  ∃ observer context record url, event = .attemptFinished observer context record ∧
    record.status.any (·.isSuccess) ∧ e.endpoints.urls[i]? = some url ∧ record.endpoint = url.text

/-- What every step of a tale keeps. The preferred endpoint is the first one, but for the marks that
the journal tells of; and each of these was served by the endpoint that is marked. -/
structure Tale.Kept (g : Crowd e) (journal : List (Call × Event)) : Prop where
  sets : ∀ c ∈ g.calls, c.1.selector.set = e.endpoints
  preferred : g.shared.preferred = (served e journal).foldl Preferred.mark (.first e.endpoints)
  serves : ∀ entry ∈ journal, ∀ i, served? e entry.1 entry.2 = some i → Serves e entry.2 i

/-- What a call tells to have been served was served by that endpoint. -/
theorem serves_of_places {c : Call × Point} (set : c.1.selector.set = e.endpoints) {event : Event}
    (placed : (g.session c).Places event) {i : Nat} (served : served? e c.1 event = some i) :
    Serves e event i := by
  obtain ⟨observer, context, record, rfl, success, known, rfl⟩ := served?_eq_some_iff.mp served
  have inside : c.1.selector.current < c.1.selector.set.urls.length := by
    rw [set]
    exact known
  obtain ⟨url, at'⟩ : ∃ url, e.endpoints.urls[c.1.selector.current]? = some url :=
    ⟨_, List.getElem?_eq_getElem known⟩
  refine ⟨observer, context, record, url, rfl, success, at', ?_⟩
  have here : c.1.selector.url? c.1.selector.current = some url := by
    rw [Selector.url?, List.getElem?_append_left inside, set, at']
  have stands : c.1.endpoint = url := by rw [Call.endpoint, Selector.currentUrl, here]
  rw [← stands]
  exact placed

/-- To begin a call serves nothing. -/
theorem served_start {clock : Clock} {o : CallOptions} {s : Session e.endpoints}
    {events : List Event} (started : Session.start e clock g.shared o = (s, events)) (c : Call) :
    s.call.selector.set = e.endpoints ∧ s.shared.preferred = g.shared.preferred ∧
      served e (events.map (c, ·)) = [] := by
  obtain rfl : (Session.start e clock g.shared o).1 = s := congrArg (·.1) started
  obtain rfl : (Session.start e clock g.shared o).2 = events := congrArg (·.2) started
  refine ⟨rfl, rfl, ?_⟩
  rw [served_reported, reported_start]
  rfl

/-- To drop a call serves nothing and prefers nothing else. -/
theorem served_cancel (clock : Clock) (s : Session e.endpoints) (c : Call) :
    (Session.cancel e clock s).1.preferred = s.shared.preferred ∧
      served e ((Session.cancel e clock s).2.map (c, ·)) = [] := by
  unfold Session.cancel
  split
  · refine ⟨rfl, ?_⟩
    rw [served_reported, reported_release]
    rfl
  · exact ⟨rfl, rfl⟩

/-- A journal goes on with what serves nothing. -/
theorem serves_append_of_nil {later : List (Call × Event)} (none : served e later = [])
    (serves : ∀ entry ∈ journal, ∀ i, served? e entry.1 entry.2 = some i → Serves e entry.2 i) :
    ∀ entry ∈ journal ++ later, ∀ i, served? e entry.1 entry.2 = some i → Serves e entry.2 i := by
  intro entry among i served
  rcases List.mem_append.mp among with before | now
  · exact serves entry before i served
  · rw [List.filterMap_eq_nil_iff.mp none entry now] at served
    cases served

theorem Tale.kept (tale : Tale g journal) : Kept g journal := by
  induction tale with
  | opens limiters => exact ⟨by simp, rfl, by simp⟩
  | begins tale clock o started ih =>
    obtain ⟨set, same, none⟩ := served_start started _
    refine ⟨?_, ?_, serves_append_of_nil none ih.serves⟩
    · intro c among
      rcases List.mem_cons.mp among with rfl | before
      · exact set
      · exact ih.sets c before
    · rw [served_append, none, List.append_nil, ← ih.preferred]
      exact same
  | @moves g journal clock before after c s events tale among step ih =>
    have mem : c ∈ g.calls := by rw [among]; simp
    have set := ih.sets c mem
    obtain ⟨stays, preferred⟩ := step.transition.preferred set
    refine ⟨?_, ?_, ?_⟩
    · intro d here
      have others : d ∈ g.calls ∨ d = (s.call, s.point) := by
        rw [among]
        simp only [List.mem_append, List.mem_cons] at here ⊢
        tauto
      rcases others with other | rfl
      · exact ih.sets d other
      · exact stays
    · rw [served_append, List.foldl_append, ← ih.preferred]
      exact preferred
    · intro entry told i serves
      rcases List.mem_append.mp told with old | new
      · exact ih.serves entry old i serves
      · obtain ⟨event, now, rfl⟩ := List.mem_map.mp new
        exact serves_of_places set (step.transition.places event now) serves
  | @cancels g journal before after c tale clock among ih =>
    obtain ⟨same, none⟩ := served_cancel clock (g.session c) c.1
    refine ⟨?_, ?_, serves_append_of_nil none ih.serves⟩
    · intro d here
      refine ih.sets d ?_
      rw [among]
      simp only [List.mem_append, List.mem_cons] at here ⊢
      tauto
    · rw [served_append, none, List.append_nil, ← ih.preferred]
      exact same
  | others tale limiters held ih => exact ⟨ih.sets, ih.preferred, ih.serves⟩

/-- The endpoint that calls start from is at every moment the last one of the set that served an
attempt with success, or the first one if none did, whatever calls of the engine do side by side and
however they end. A step changes it only if it tells of such an attempt, which one at an endpoint
that only a redirect led to is not; to drop a call changes nothing. The first attempt of a call goes
to the endpoint that was preferred when the call began. -/
theorem preferred_is_last_served (tale : Tale g journal) :
    g.shared.preferred.index = (served e journal).getLast?.getD 0 ∧
    g.shared.preferred.index < e.endpoints.size ∧
    (∀ entry ∈ journal, ∀ i, served? e entry.1 entry.2 = some i → Serves e entry.2 i) ∧
    (∀ c ∈ g.calls, ∀ clock s events, Session.Step e clock (g.session c) s events →
      s.shared.preferred = g.shared.preferred ∨
      ∃ event ∈ events, served? e c.1 event = some s.shared.preferred.index) ∧
    (∀ c ∈ g.calls, ∀ clock,
      (Session.cancel e clock (g.session c)).1.preferred = g.shared.preferred) ∧
    ∀ clock o t tried log, Session.Course e (Session.start e clock g.shared o).1 t tried log →
      (∀ i ∈ tried.head?, i = g.shared.preferred.index) ∧
      ∀ moment observer context url endpoint,
        (moment, Event.attemptStarted observer context 1 url endpoint) ∈ log →
          e.endpoints.urls[g.shared.preferred.index]? = some endpoint ∧
          Url.parse (target endpoint o.request.path) = .ok url := by
  have kept := tale.kept
  refine ⟨?_, g.shared.preferred.index_lt, kept.serves, ?_, ?_, ?_⟩
  · rw [kept.preferred]
    exact Preferred.index_foldl_mark _ fun i among => lt_of_mem_served among
  · intro c among clock s events step
    obtain ⟨_, marked⟩ := step.transition.preferred (kept.sets c among)
    change s.shared.preferred =
      (served e (events.map (c.1, ·))).foldl Preferred.mark g.shared.preferred at marked
    cases last : (served e (events.map (c.1, ·))).getLast? with
    | none =>
      rw [List.getLast?_eq_none_iff.mp last] at marked
      exact .inl marked
    | some i =>
      right
      have at' : s.shared.preferred.index = i := by
        rw [marked, Preferred.index_foldl_mark _ fun i among => lt_of_mem_served among, last]
        rfl
      obtain ⟨entry, told, serves⟩ := List.mem_filterMap.mp (List.mem_of_getLast? last)
      obtain ⟨event, now, rfl⟩ := List.mem_map.mp told
      exact ⟨event, now, at' ▸ serves⟩
  · exact fun c _ clock => (served_cancel clock (g.session c) c.1).1
  · intro clock o t tried log course
    have opens := course.opens
    let begun := (Session.start e clock g.shared o).1.call
    have here : begun.selector.current = g.shared.preferred.index :=
      Nat.mod_eq_of_lt g.shared.preferred.index_lt
    refine ⟨fun i among => (opens.head i among).trans here, ?_⟩
    intro moment observer context url endpoint told
    obtain ⟨rfl, read⟩ := opens.started told
    refine ⟨?_, read⟩
    obtain ⟨u, at'⟩ : ∃ u, e.endpoints.urls[g.shared.preferred.index]? = some u :=
      ⟨_, List.getElem?_eq_getElem g.shared.preferred.index_lt⟩
    have stands : begun.selector.url? begun.selector.current = some u := by
      rw [here]
      exact (List.getElem?_append_left g.shared.preferred.index_lt).trans at'
    rw [at', Call.endpoint, Selector.currentUrl, stands]

/-- A call that goes through a scripted network by itself is a tale. -/
theorem Tale.proceed (clock : Clock) (n : Nat) {travel : Travel e.endpoints}
    {journal : List (Call × Event)}
    (tale : Tale ⟨travel.session.shared, [(travel.session.call, travel.session.point)], []⟩
      journal) :
    let last := (Travel.proceed e clock n travel).session
    ∃ journal, Tale ⟨last.shared, [(last.call, last.point)], []⟩ journal := by
  induction n generalizing travel journal with
  | zero => exact ⟨_, tale⟩
  | succ n ih =>
    rw [Travel.proceed]
    split
    · rename_i stepped
      obtain ⟨events, step, _⟩ := Travel.step?_step stepped
      exact ih (@moves _ _ _ clock [] [] _ _ _ tale rfl step)
    · exact ⟨_, tale⟩

/-- A call that the first endpoint turns away and the second one serves, before its first step. -/
def relieved : Travel Session.couple.endpoints :=
  ⟨(Session.start Session.couple ⟨0, 0⟩ Session.couple.fresh ⟨.of "GET" "/", none, .empty⟩).1, none,
    [("a", [⟨some (.ok ⟨⟨503⟩, [], []⟩), 0⟩]), ("b", [⟨some (.ok ⟨⟨200⟩, [], []⟩), 0⟩])], []⟩

/-- After a call that the second endpoint served, the next call starts there. -/
theorem preferred_is_last_served_relieved :
    ∃ (g : Crowd Session.couple) (journal : List (Call × Event)), Tale g journal ∧
      (served Session.couple journal).getLast? = some 1 ∧
      ∀ clock o t tried log,
        Session.Course Session.couple (Session.start Session.couple clock g.shared o).1 t tried
          log →
        ∀ i ∈ tried.head?, i = 1 := by
  have begins : Tale ⟨relieved.session.shared, [(relieved.session.call, relieved.session.point)],
      []⟩ _ := .begins (.opens (.ofSettings Session.couple.limiter)) ⟨0, 0⟩
        ⟨.of "GET" "/", none, .empty⟩ rfl
  obtain ⟨journal, tale⟩ := begins.proceed ⟨0, 0⟩ 40
  have second : (Travel.proceed Session.couple ⟨0, 0⟩ 40 relieved).session.shared.preferred.index =
      1 := by decide +kernel
  obtain ⟨last, _, _, _, _, first⟩ := preferred_is_last_served tale
  refine ⟨_, journal, tale, ?_, fun clock o t tried log course i among => ?_⟩
  · cases h : (served Session.couple journal).getLast? with
    | none =>
      rw [h] at last
      cases second.symm.trans last
    | some i =>
      rw [h] at last
      exact congrArg some (last.symm.trans second)
  · exact ((first clock o t tried log course).1 i among).trans second

end Crowd
end Failover
