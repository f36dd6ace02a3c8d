import Failover.Proofs.Call.Answers
import Failover.Proofs.Call.Preferred
import Failover.Proofs.Endpoint.Tour

/-!
# What attempts send

Of the request of a call only its target depends on where the call has come to: the URL of a path
below an endpoint. The endpoint is the one at which the walk of the call stands, and the path is the
one to which the last redirect led, or the one that the call was made with. A step that follows a
redirect moves both, a step that goes on to a next endpoint moves the endpoint alone, wherever it
comes from, and no other step moves either.
-/

namespace Failover

/-! ## Targets -/

/-- The target of a request on the wire is its URL without the fragment. -/
theorem Uri.of_ok {u : Url} {a : Authority} {uri : Uri} (written : u.IsWritten)
    (ha : u.authority = some a) (h : Uri.of u = .ok uri) :
    uri = ⟨a.chars, u.withoutFragment⟩ := by
  obtain ⟨rest, path⟩ := written.exists_path
  have rooted : u.path.chars.isEmpty = false := by
    rw [path]
    rfl
  have whole : u.withoutFragment =
      u.scheme ++ ':' :: '/' :: '/' :: a.chars ++ u.path.chars ++ Url.marked '?' u.query := by
    simp [Url.withoutFragment, Url.middle, ha, Url.pathAndQuery]
  rw [Uri.of] at h
  by_cases long : longest < (String.ofList u.chars).utf8ByteSize
  · rw [if_pos long] at h
    cases h
  rw [if_neg long, ha] at h
  by_cases named : 64 < u.scheme.length
  · simp only [if_pos named] at h
    cases h
  simp only [if_neg named] at h
  cases checked : checkAuthority a.chars with
  | error error =>
    rw [checked] at h
    cases h
  | ok _ =>
    rw [checked] at h
    by_cases empty : a.chars.isEmpty
    · simp only [if_pos empty] at h
      cases h
    simp only [if_neg empty, rooted] at h
    cases h
    rw [whole]
    rfl

/-- A fragment leaves no trace in the target of a request. -/
theorem Uri.of_bare {u : Url} {uri : Uri} (h : Uri.of u = .ok uri) : Uri.of u.bare = .ok uri := by
  have whole : u.chars = u.bare.chars ++ Url.marked '#' u.fragment := by
    rw [Url.chars_bare]
    rfl
  have shorter : (String.ofList u.bare.chars).utf8ByteSize ≤
      (String.ofList u.chars).utf8ByteSize := by
    rw [whole, String.ofList_append, String.utf8ByteSize_append]
    exact Nat.le_add_right _ _
  rw [Uri.of] at h ⊢
  by_cases long : longest < (String.ofList u.chars).utf8ByteSize
  · rw [if_pos long] at h
    cases h
  rw [if_neg long] at h
  rw [if_neg fun longer => long (Nat.lt_of_lt_of_le longer shorter)]
  -- without a host there is no target, with or without the fragment
  cases ha : u.authority with
  | none =>
    rw [ha] at h
    simp only at h
    cases checked : checkAuthority (u.chars.takeWhile fun c => c != '/' && c != '?' && c != '#') <;>
      rw [checked] at h <;> cases h
  | some a =>
    rw [ha] at h
    have same : u.bare.authority = some a := ha
    rw [same]
    exact h

namespace RelativeRequest

variable {r : RelativeRequest} {base url : Url} {path reason : String} {request : WireRequest}

/-- A request for the wire is the relative one, at the target that the URL is. -/
theorem sentTo_ok (h : r.sentTo url = .ok request) :
    ∃ uri, Uri.of url = .ok uri ∧ request = ⟨r.method, uri, r.headers, r.body⟩ := by
  rw [sentTo] at h
  cases built : Uri.of url with
  | error error =>
    rw [built] at h
    cases h
  | ok uri =>
    rw [built] at h
    cases h
    exact ⟨uri, rfl, rfl⟩

/-- The request for the wire of a path below an endpoint, or why there is none. -/
def wireAt (r : RelativeRequest) (base : Url) (path : String) : Except String WireRequest :=
  match Url.parse (target base path) with
  | .error error => .error error.message
  | .ok url =>
    match Uri.of url with
    | .error error => .error error.message
    | .ok uri => .ok ⟨r.method, uri, r.headers, r.body⟩

theorem wireAt_of_sentTo (read : Url.parse (target base path) = .ok url)
    (built : r.sentTo url = .ok request) : r.wireAt base path = .ok request := by
  obtain ⟨uri, found, rfl⟩ := sentTo_ok built
  rw [wireAt, read]
  simp only [found]

/-- There is no request if the text spells no URL, or the URL is no target. -/
theorem wireAt_error (h : r.wireAt base path = .error reason) :
    (∃ error, Url.parse (target base path) = .error error ∧ error.message = reason) ∨
    ∃ url, Url.parse (target base path) = .ok url ∧
      r.sentTo url = .error (.invalidRequest reason) := by
  rw [wireAt] at h
  cases read : Url.parse (target base path) with
  | error error =>
    rw [read] at h
    exact .inl ⟨error, rfl, Except.error.inj h⟩
  | ok url =>
    rw [read] at h
    refine .inr ⟨url, rfl, ?_⟩
    rw [sentTo]
    cases found : Uri.of url with
    | ok uri =>
      simp only [found] at h
      cases h
    | error error =>
      simp only [found] at h
      cases h
      rfl

end RelativeRequest

/-! ## The path of a tour -/

namespace Selector

/-- The path to which a redirect led that was followed. -/
def redirected? : Relocation × Except SelectionError Selection → Option String
  | (.redirect _, .ok selection) => selection.path
  | _ => none

/-- The path of a call after the moves that its walk was asked for: the one to which the last
redirect led that was followed, or else the one before all of them. -/
def pathAfter (path : String) (answers : Answers) : String :=
  (answers.filterMap redirected?).getLast?.getD path

theorem pathAfter_concat (path : String) (answers : Answers)
    (entry : Relocation × Except SelectionError Selection) :
    pathAfter path (answers ++ [entry]) = (redirected? entry).getD (pathAfter path answers) := by
  rw [pathAfter, List.filterMap_append]
  cases led : redirected? entry with
  | none => simp [pathAfter, led]
  | some path' => simp [led]

/-- Only a redirect leads to a path. -/
theorem redirected?_of_relocate {w w' : Selector} {aim : Relocation} {selection : Selection}
    (moved : w.relocate aim = .ok (selection, w')) :
    redirected? (aim, .ok selection) = selection.path := by
  cases relocate_move moved with
  | next room untried => rfl
  | redirect room found => rfl

end Selector

/-! ## Points -/

namespace Point

/-- Where a call is about to ask its walk to go. -/
def aim? : Point → Option Relocation
  | .entering (.relocating aim _) => some aim
  | _ => none

/-- The address that a call is about to follow. -/
def address? : Point → Option Url
  | .entering (.relocating (.redirect address) _) => some address
  | _ => none

/-- The URL that an attempt under way asks. -/
def url? : Point → Option Url
  | .waiting url _ | .exchanging url _ _ => some url
  | _ => none

/-- The request of an exchange under way. -/
def request? : Point → Option WireRequest
  | .exchanging _ _ request => some request
  | _ => none

/-- Whether a call is at an attempt that has no permit yet. -/
def seeks : Point → Bool
  | .entering .attempting | .waiting _ _ => true
  | _ => false

theorem aim?_eq_some_iff {p : Point} {aim : Relocation} :
    p.aim? = some aim ↔ ∃ delay, p = .entering (.relocating aim delay) := by
  constructor
  · intro ahead
    rcases p with ⟨_ | _ | ⟨_, delay⟩ | _ | _ | _⟩ | _ | _ | _ | _ <;> cases ahead
    exact ⟨delay, rfl⟩
  · rintro ⟨delay, rfl⟩
    rfl

end Point

namespace Session

variable {e : Engine} {s t a first : Session e.endpoints} {clock : Clock} {url : Url}
  {front events : List Event} {o : CallOptions} {aim : Relocation} {aims : List Relocation}
  {request : WireRequest} {reason : String} {failure : CallFailure} {walk : Selector}

/-! ## Walk and path -/

/-- The end of an attempt leaves walk and path alone. -/
theorem settle_stands {drawn started : Nat} {result : Except TransportError Response}
    (settled : settle e clock drawn s url started result = (t, events)) :
    t.call.selector = s.call.selector ∧ t.call.path = s.call.path := by
  obtain ⟨x, _, rfl, _⟩ := settle_follow settled
  have frame := follow_call_frame drawn (s.told x) x.outcome
  exact ⟨congrArg (·.selector) frame, congrArg (·.path) frame⟩

/-- Only a step that relocates a call moves its walk or its path. -/
theorem Transition.stands (row : Transition e clock s t events) (still : s.point.aim? = none) :
    t.call.selector = s.call.selector ∧ t.call.path = s.call.path := by
  cases row with
  | waits asks answer =>
    obtain ⟨selector, path, _⟩ := asks.stands
    exact ⟨selector, path⟩
  | sends asks answer built =>
    obtain ⟨selector, path, _⟩ := asks.stands
    exact ⟨selector, path⟩
  | refused asks answer retried =>
    obtain ⟨selector, path, _⟩ := asks.stands
    rcases Call.retry_pause retried with ⟨rfl, _⟩ | ⟨_, _, rfl, _⟩
    · exact ⟨selector, path⟩
    · exact ⟨selector, path⟩
  | unsendable asks answer bad settled =>
    obtain ⟨selector, path, _⟩ := asks.stands
    obtain ⟨selector', path'⟩ := settle_stands settled
    exact ⟨selector'.trans selector, path'.trans path⟩
  | hears stands settled => exact settle_stands settled
  | relocates stands moved =>
    rw [stands] at still
    cases still
  | _ => exact ⟨rfl, rfl⟩

/-- A step that relocates a call asks its walk, and takes the path of a redirect that is
followed. -/
theorem Step.relocates (step : Step e clock s t events) (ahead : s.point.aim? = some aim) :
    t.call.selector = (s.call.selector.ask aim).2 ∧
    t.call.path =
      (Selector.redirected? (aim, (s.call.selector.ask aim).1)).getD s.call.path := by
  obtain ⟨delay, stands⟩ := Point.aim?_eq_some_iff.mp ahead
  have entered : t = (relocate e clock s aim delay).1 := by
    cases step with
    | enter drawn other =>
      cases stands.symm.trans other
      rfl
    | ask drawn other => cases stands.symm.trans other
    | hear drawn result other => cases stands.symm.trans other
    | resume other due => cases stands.symm.trans other
  rw [entered]
  rcases s.call.selector.ask_cases aim with ⟨selection, w, moved, asked⟩ | ⟨error, stuck, asked⟩
  · rw [asked, Selector.redirected?_of_relocate moved]
    simp only [relocate, moved, and_self]
  · have nowhere : Selector.redirected? (aim, .error error) = none := by cases aim <;> rfl
    rw [asked, nowhere]
    cases error <;> simp only [relocate, stuck]
    all_goals exact ⟨rfl, rfl⟩

/-- A step that follows no redirect leaves the path of a call alone. -/
theorem Step.path_eq (step : Step e clock s t events) (straight : s.point.address? = none) :
    t.call.path = s.call.path := by
  cases ahead : s.point.aim? with
  | none => exact (step.transition.stands ahead).2
  | some aim =>
    rw [(step.relocates ahead).2]
    obtain ⟨delay, stands⟩ := Point.aim?_eq_some_iff.mp ahead
    cases aim with
    | next => rfl
    | redirect address =>
      rw [stands] at straight
      cases straight

/-! ## The URL of an attempt -/

/-- An attempt under way asks the URL of the path of the call below its endpoint. -/
def IsAsking (s : Session e.endpoints) : Prop :=
  ∀ url, s.point.url? = some url → Url.parse (target s.call.endpoint s.call.path) = .ok url

/-- A call that asks no URL has nothing to keep. -/
theorem isAsking_of_idle (unasked : s.point.url? = none) : s.IsAsking := by
  intro url under
  rw [unasked] at under
  cases under

/-- A session that asks for a permit asks for the URL of the path below its endpoint. -/
theorem IsAsking.asks (h : s.IsAsking) (asks : Asks s a url front) :
    Url.parse (target a.call.endpoint a.call.path) = .ok url := by
  cases asks with
  | anew stands read => exact read
  | again stands => exact h url (by rw [stands]; rfl)

theorem settle_isAsking {drawn started : Nat} {result : Except TransportError Response}
    (settled : settle e clock drawn s url started result = (t, events)) : t.IsAsking := by
  obtain ⟨phase, enters⟩ := settle_enters settled
  exact isAsking_of_idle (by rw [enters]; rfl)

theorem Transition.isAsking (row : Transition e clock s t events) (h : s.IsAsking) :
    t.IsAsking := by
  cases row with
  | waits asks answer =>
    have read := h.asks asks
    rintro _ ⟨⟩
    exact read
  | sends asks answer built =>
    have read := h.asks asks
    rintro _ ⟨⟩
    exact read
  | unsendable asks answer bad settled => exact settle_isAsking settled
  | hears stands settled => exact settle_isAsking settled
  | _ => exact isAsking_of_idle rfl

/-- An exchange under way is one of a request that could be built. -/
theorem Reaches.built {shared : Shared e.endpoints}
    (reaches : Reaches e (start e clock shared o).1 s) (sent : s.point.request? = some request) :
    ∃ url, s.point.url? = some url ∧ s.call.request.sentTo url = .ok request := by
  cases stands : s.point with
  | exchanging url started own =>
    rw [stands] at sent
    cases sent
    cases reaches with
    | refl => cases stands
    | tail _ onward =>
      obtain ⟨_, _, _, step⟩ := onward
      exact ⟨url, rfl, step.transition.built stands⟩
  | _ =>
    rw [stands] at sent
    cases sent

/-! ## Routes -/

/-- What a call can come to from `first`, with the moves for which its walk was asked on the way, in
order. Others may change what is shared before each step. -/
inductive Route (e : Engine) (first : Session e.endpoints) :
    Session e.endpoints → List Relocation → Prop
  | starts : Route e first first []
  | goes {s t : Session e.endpoints} {aims : List Relocation} {clock : Clock}
      {events : List Event} (route : Route e first s aims) (shared : Shared e.endpoints)
      (step : Step e clock { s with shared } t events) :
      Route e first t (aims ++ s.point.aim?.toList)

/-- A route leads to where the call can come to, and wherever it can come to, a route leads. -/
theorem reaches_iff_exists_route : Reaches e first t ↔ ∃ aims, Route e first t aims := by
  constructor
  · intro reaches
    induction reaches with
    | refl => exact ⟨_, .starts⟩
    | tail _ onward ih =>
      obtain ⟨aims, route⟩ := ih
      obtain ⟨_, shared, _, step⟩ := onward
      exact ⟨_, route.goes shared step⟩
  · rintro ⟨aims, route⟩
    induction route with
    | starts => exact .refl
    | goes _ _ step ih => exact ih.tail ⟨_, _, _, step⟩

/-- Where a call with these options stands whose walk began as `walk` and was asked for these moves:
the walk is where the tour has led it, the path is the one of the last redirect, and the request is
the one that the call was made with. -/
structure IsRouted (o : CallOptions) (walk : Selector) (s : Session e.endpoints)
    (aims : List Relocation) : Prop where
  request : s.call.request = o.request
  selector : s.call.selector = (walk.askAll aims).2
  path : s.call.path = Selector.pathAfter o.request.path (walk.askAll aims).1
  asking : s.IsAsking

theorem start_isRouted (clock : Clock) (shared : Shared e.endpoints) (o : CallOptions) :
    IsRouted o (start e clock shared o).1.call.selector (start e clock shared o).1 [] :=
  ⟨rfl, rfl, rfl, isAsking_of_idle rfl⟩

theorem Step.isRouted (step : Step e clock s t events) (h : IsRouted o walk s aims) :
    IsRouted o walk t (aims ++ s.point.aim?.toList) := by
  have row := step.transition
  have request := row.request.trans h.request
  have asking := row.isAsking h.asking
  cases ahead : s.point.aim? with
  | none =>
    obtain ⟨selector, path⟩ := row.stands ahead
    rw [Option.toList_none, List.append_nil]
    exact ⟨request, selector.trans h.selector, path.trans h.path, asking⟩
  | some aim =>
    obtain ⟨selector, path⟩ := step.relocates ahead
    rw [h.selector] at selector path
    rw [h.path] at path
    rw [Option.toList_some]
    refine ⟨request, ?_, ?_, asking⟩
    · rw [selector, Selector.askAll_concat]
    · rw [path, Selector.askAll_concat, Selector.pathAfter_concat]

theorem Route.isRouted (route : Route e first t aims) (h : IsRouted o walk first []) :
    IsRouted o walk t aims := by
  induction route with
  | starts => exact h
  | goes _ shared step ih => exact step.isRouted ⟨ih.request, ih.selector, ih.path, ih.asking⟩

/-! ## Sending -/

/-- Only reports tell of a request that is sent. -/
theorem requestSent_notMem (reports : List Event) (told : reported events = reports)
    (quiet : .requestSent request ∉ reports) : .requestSent request ∉ events := by
  intro sent
  exact quiet (told ▸ List.mem_filter.mpr ⟨sent, rfl⟩)

/-- A step that sends a request is one of a call that asks for its permit, and leads into the
exchange of the request. -/
theorem Transition.sent (row : Transition e clock s t events)
    (sent : .requestSent request ∈ events) :
    ∃ a url front, Asks s a url front ∧ a.call.request.sentTo url = .ok request ∧
      t.point.request? = some request := by
  cases row with
  | waits asks answer =>
    obtain ⟨_, _, _, front⟩ := asks.stands
    refine absurd sent (requestSent_notMem [] ?_ List.not_mem_nil)
    simp only [reported_append, front, reported_acquire answer, List.append_nil]
  | @refused a _ _ _ _ _ error _ _ _ asks answer retried =>
    obtain ⟨_, _, _, front⟩ := asks.stands
    obtain ⟨_, _, _, silent⟩ := Call.retry_silent retried
    refine absurd sent (requestSent_notMem [.attemptRefused a.call.attempts a.call.endpoint error,
      .attemptRecorded a.call.refusal Span.zero] ?_ (by simp))
    simp only [reported_append, front, reported_acquire answer, silent]
    rfl
  | @sends a url _ _ _ own asks answer built =>
    obtain ⟨_, _, _, front⟩ := asks.stands
    by_cases same : request = own
    · exact ⟨a, url, _, asks, same ▸ built, congrArg some same.symm⟩
    · refine absurd sent (requestSent_notMem [startEvent e a url, .requestSent own] ?_
        (by simp [startEvent, same]))
      simp only [reported_append, front, reported_acquire answer]
      rfl
  | @unsendable a _ url _ _ more _ _ _ asks answer bad settled =>
    obtain ⟨_, _, _, front⟩ := asks.stands
    obtain ⟨_, told⟩ := settle_reported ⟨a.call.request, none, a.call.context⟩ settled
    refine absurd sent (requestSent_notMem (startEvent e a url :: reported more) ?_
      (by simp [told, startEvent]))
    simp only [reported_append, front, reported_acquire answer]
    rfl
  | hears stands settled =>
    obtain ⟨_, told⟩ := settle_reported ⟨s.call.request, none, s.call.context⟩ settled
    exact absurd sent (requestSent_notMem _ told (by simp))
  | relocates stands moved =>
    exact absurd sent (requestSent_notMem [] (reported_capping _) List.not_mem_nil)
  | _ => simp at sent

/-- A call that is about to fail, and can come to nothing else. -/
def IsDoomed (s : Session e.endpoints) (failure : CallFailure) : Prop :=
  s.point = .entering (.failed failure) ∧
  ∀ last, Reaches e s last → last.point = .entering (.failed failure) ∨
    ∃ error, last.point = .finished (.error error) ∧ error.failure = failure

/-- A call that is about to fail fails, and stays failed. -/
theorem isDoomed_of_failed (stands : s.point = .entering (.failed failure)) :
    s.IsDoomed failure := by
  refine ⟨stands, fun last reaches => ?_⟩
  induction reaches with
  | refl => exact .inl stands
  | tail _ onward ih =>
    obtain ⟨clock, shared, events, step⟩ := onward
    refine .inr ?_
    rcases ih with stands | ⟨error, stands, _⟩
    · cases step with
      | enter drawn other =>
        cases stands.symm.trans other
        exact ⟨_, rfl, rfl⟩
      | ask drawn other => cases stands.symm.trans other
      | hear drawn result other => cases stands.symm.trans other
      | resume other due => cases stands.symm.trans other
    · cases step with
      | enter drawn other => cases stands.symm.trans other
      | ask drawn other => cases stands.symm.trans other
      | hear drawn result other => cases stands.symm.trans other
      | resume other due => cases stands.symm.trans other

/-- The request of a session that asks for a permit is the one below its endpoint. -/
theorem Asks.wireAt (asks : Asks s a url front) (asking : s.IsAsking)
    (built : a.call.request.sentTo url = .ok request) :
    s.call.request.wireAt s.call.endpoint s.call.path = .ok request := by
  obtain ⟨selector, path, _⟩ := asks.stands
  have endpoint : a.call.endpoint = s.call.endpoint := congrArg (·.currentUrl) selector
  rw [← asks.request, ← endpoint, ← path]
  exact RelativeRequest.wireAt_of_sentTo (asking.asks asks) built

/-- An attempt without a request waits for its permit, or is refused it, or is the end of the
call. -/
theorem Transition.unsent (row : Transition e clock s t events) (asking : s.IsAsking)
    (bad : s.call.request.wireAt s.call.endpoint s.call.path = .error reason)
    (seeks : s.point.seeks = true) :
    t.IsWaiting ∨
    (∃ number error, .attemptRefused number s.call.endpoint error ∈ events) ∨
    t.IsDoomed (.fatal (.invalidRequest reason) none) := by
  cases row with
  | waits asks answer => exact .inl ⟨_, _, rfl⟩
  | @refused a _ _ _ _ _ error _ _ _ asks answer retried =>
    obtain ⟨selector, _⟩ := asks.stands
    have endpoint : a.call.endpoint = s.call.endpoint := congrArg (·.currentUrl) selector
    exact .inr (.inl ⟨a.call.attempts, error, by simp [endpoint]⟩)
  | sends asks answer built => cases (asks.wireAt asking built).symm.trans bad
  | unreadable stands unread =>
    refine .inr (.inr (isDoomed_of_failed ?_))
    rcases RelativeRequest.wireAt_error bad with ⟨error, unread', rfl⟩ | ⟨url, read, _⟩
    · cases unread.symm.trans unread'
      rfl
    · cases unread.symm.trans read
  | @unsendable a _ url _ _ _ c error _ asks answer unsent settled =>
    refine .inr (.inr (isDoomed_of_failed ?_))
    obtain ⟨selector, path, _⟩ := asks.stands
    have endpoint : a.call.endpoint = s.call.endpoint := congrArg (·.currentUrl) selector
    have read := asking.asks asks
    rw [endpoint, path] at read
    have invalid : error = .invalidRequest reason := by
      rcases RelativeRequest.wireAt_error bad with ⟨_, unread, _⟩ | ⟨url', read', unsent'⟩
      · cases read.symm.trans unread
      · cases read.symm.trans read'
        rw [asks.request] at unsent
        exact Except.error.inj (unsent.symm.trans unsent')
    subst invalid
    obtain ⟨x, made, rfl, _⟩ := settle_follow settled
    have outcome : x.outcome = .fatal (.invalidRequest reason) none := by
      rw [made]
      rfl
    rw [outcome]
    rfl
  | begins stands | backsOff stands | succeeds stands | fails stands =>
    rw [stands] at seeks
    cases seeks
  | hears stands _ | relocates stands _ | stranded stands _ | resumes stands _ =>
    rw [stands] at seeks
    cases seeks

/-! ## What is sent -/

/-- What a call sends. Wherever its steps have led it, its walk is where the moves for which it was
asked have led it from its start, and its path is the one of the last redirect among them, or else
the one of the request that the call was made with. A request goes out only on the step that enters
its exchange, and an exchange under way is one of the request that the call was made with, at the
URL of the path below the endpoint of the walk, without the fragment of this URL; all else is as it
was made. No step moves the path but one that follows a redirect. Where there is no such URL, or it
is no target, nothing is sent: an attempt waits for its permit, is refused it, or has the call fail
for an invalid request, from where it comes to nothing else. -/
theorem attempts_send_prepared {shared : Shared e.endpoints}
    (route : Route e (start e clock shared o).1 s aims) :
    let walk := Selector.startingAt e.endpoints shared.preferred.index e.maxRelocations
    let tour := walk.askAll aims
    let base := tour.2.currentUrl
    let path := Selector.pathAfter o.request.path tour.1
    (s.call.selector = tour.2 ∧ s.call.path = path) ∧
    (∀ request, s.point.request? = some request →
      request.method = o.request.method ∧ request.headers = o.request.headers ∧
      request.body = o.request.body ∧
      ∃ url, Url.parse (target base path) = .ok url ∧ Uri.of url.bare = .ok request.uri ∧
        (url.kind = .network → request.uri.text = url.withoutFragment)) ∧
    ∀ change clock t events, Step e clock { s with shared := change } t events →
      (∀ request, .requestSent request ∈ events → t.point.request? = some request) ∧
      (s.point.address? = none → t.call.path = s.call.path) ∧
      ∀ reason, o.request.wireAt base path = .error reason →
        (∀ request, .requestSent request ∉ events) ∧
        (s.point.seeks = true → t.IsWaiting ∨
          (∃ number error, .attemptRefused number base error ∈ events) ∨
          t.IsDoomed (.fatal (.invalidRequest reason) none)) := by
  intro walk tour base path
  have routed := route.isRouted (start_isRouted clock shared o)
  have endpoint : s.call.endpoint = base := congrArg (·.currentUrl) routed.selector
  have here : s.call.path = path := routed.path
  refine ⟨⟨routed.selector, here⟩, ?_, ?_⟩
  · intro request sent
    obtain ⟨url, under, built⟩ := Reaches.built (reaches_iff_exists_route.mpr ⟨_, route⟩) sent
    have read := routed.asking url under
    rw [endpoint, here] at read
    rw [routed.request] at built
    obtain ⟨uri, found, rfl⟩ := RelativeRequest.sentTo_ok built
    refine ⟨rfl, rfl, rfl, url, read, Uri.of_bare found, fun network => ?_⟩
    have written := (Url.Made.parsed read).isSound.written network
    obtain ⟨a, ha, _⟩ := written.authority
    rw [Uri.of_ok written ha found]
  · intro change moment t events step
    have asking : IsAsking { s with shared := change } := routed.asking
    refine ⟨fun request sent => ?_, step.path_eq, fun reason bad => ?_⟩
    · obtain ⟨_, _, _, _, _, under⟩ := step.transition.sent sent
      exact under
    · rw [← routed.request, ← here, ← endpoint] at bad
      refine ⟨fun request sent => ?_, fun seeks => ?_⟩
      · obtain ⟨a, url, front, asks, built, _⟩ := step.transition.sent sent
        cases (asks.wireAt asking built).symm.trans bad
      · rw [← endpoint]
        exact step.transition.unsent asking bad seeks

/-- The moves for which the walk of a call is asked that meets these things one after another while
nothing else happens. -/
def aimed (e : Engine) : Session e.endpoints → List Encounter → List Relocation
  | _, [] => []
  | s, x :: rest => s.point.aim?.toList ++ aimed e (meet e s x).1 rest

theorem Route.passes (route : Route e first s aims) (met : List Encounter) :
    Route e first (Session.passes e s met).1 (aims ++ aimed e s met) := by
  induction met generalizing s aims with
  | nil => simpa [Session.passes, aimed] using route
  | cons x rest ih =>
    have next : Route e first (meet e s x).1 (aims ++ s.point.aim?.toList) := by
      rcases meet_step s x with ⟨still, same⟩ | step
      · have unaimed : s.point.aim? = none := by
          rcases still with ⟨result, stands⟩ | ⟨moment, stands, _⟩ <;> rw [stands] <;> rfl
        rw [same, unaimed, Option.toList_none, List.append_nil]
        exact route
      · exact route.goes s.shared step
    have last := ih next
    rwa [List.append_assoc] at last

/-- A call that is redirected to this address and is about to ask it: what it meets. -/
def sidetracked (address : String) : List Encounter :=
  let meets (result : Except TransportError Response) : Encounter := ⟨⟨0, 0⟩, 0, result⟩
  let quiet := meets (.error (.timeout Span.zero))
  let location : Header := ⟨"location", address.toList.map fun c => UInt8.ofNat c.toNat⟩
  [quiet, quiet, meets (.ok ⟨⟨307⟩, [location], []⟩), quiet, quiet]

/-- The same call if it is turned away there, until its next exchange. -/
def turnedBack (address : String) : List Encounter :=
  let meets (result : Except TransportError Response) : Encounter := ⟨⟨0, 0⟩, 0, result⟩
  let quiet := meets (.error (.timeout Span.zero))
  sidetracked address ++ [quiet, meets (.ok ⟨⟨503⟩, [], []⟩), quiet, quiet, quiet]

/-- A call that another host has turned away takes the path of the redirect back to the set. One
that is sent to an address without a host sends nothing. -/
theorem attempts_send_prepared_sidetracked :
    let o : CallOptions := ⟨⟨"POST", "/v1", [⟨"accept", [42]⟩], [7]⟩, none, .empty⟩
    let first := (start couple ⟨0, 0⟩ couple.fresh o).1
    (∃ s aims request, Route couple first s aims ∧ aims.length = 2 ∧
      s.point.request? = some request ∧ request.method = "POST" ∧ request.body = [7] ∧
      request.uri.text = "http://b/x?y=1".toList) ∧
    ∃ s aims, Route couple first s aims ∧ s.point.seeks = true ∧
      ∀ clock t events, Step couple clock s t events →
        (∀ request, .requestSent request ∉ events) ∧
        (t.IsWaiting ∨ (∃ number base error, .attemptRefused number base error ∈ events) ∨
          t.IsDoomed (.fatal (.invalidRequest "invalid format") none)) := by
  intro o first
  let walk :=
    Selector.startingAt couple.endpoints couple.fresh.preferred.index couple.maxRelocations
  constructor
  · let host (name : String) : Option Authority := some ⟨[], none, .domain name.toList, none⟩
    let aims : List Relocation :=
      [.redirect ⟨"http".toList, host "c", .rooted [['x']], some "y=1".toList, some ['z']⟩, .next]
    let back : Url := ⟨"http".toList, host "b", .rooted [['x']], some "y=1".toList, none⟩
    have route := (@Route.starts couple first).passes (turnedBack "http://c/x?y=1#z")
    have moves : [] ++ aimed couple first (turnedBack "http://c/x?y=1#z") = aims := by
      decide +kernel
    have sends : (passes couple first (turnedBack "http://c/x?y=1#z")).1.point.request?.isSome =
        true := by decide +kernel
    have spelled : Url.parse (target (walk.askAll aims).2.currentUrl
        (Selector.pathAfter "/v1" (walk.askAll aims).1)) = .ok back := by decide +kernel
    rw [moves] at route
    generalize (passes couple first (turnedBack "http://c/x?y=1#z")).1 = s at route sends
    obtain ⟨request, sent⟩ := Option.isSome_iff_exists.mp sends
    obtain ⟨_, exchange, _⟩ := attempts_send_prepared route
    obtain ⟨method, _, body, url, read, _, text⟩ := exchange request sent
    cases read.symm.trans spelled
    exact ⟨s, aims, request, route, rfl, sent, method, body, text (by decide +kernel)⟩
  · have route := (@Route.starts couple first).passes (sidetracked "mailto:x")
    have seeks : (passes couple first (sidetracked "mailto:x")).1.point.seeks = true := by
      decide +kernel
    have bad : o.request.wireAt
        (walk.askAll ([] ++ aimed couple first (sidetracked "mailto:x"))).2.currentUrl
        (Selector.pathAfter "/v1"
          (walk.askAll ([] ++ aimed couple first (sidetracked "mailto:x"))).1) =
          .error "invalid format" := by decide +kernel
    generalize (passes couple first (sidetracked "mailto:x")).1 = s at route seeks
    refine ⟨s, _, route, seeks, fun clock t events step => ?_⟩
    obtain ⟨_, _, unsent⟩ := (attempts_send_prepared route).2.2 s.shared clock t events step
    obtain ⟨quiet, ends⟩ := unsent _ bad
    refine ⟨quiet, (ends seeks).imp_right (Or.imp_left ?_)⟩
    rintro ⟨number, error, refused⟩
    exact ⟨number, _, error, refused⟩

end Session
end Failover
