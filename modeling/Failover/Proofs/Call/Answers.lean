import Failover.Proofs.Call.Waits
import Mathlib.Data.List.Basic

/-!
# The answers that callers get to see

A response is surfaced to the caller of a call as it was received, or it is not surfaced at all.
Surfaced are those that end the matter: a success, and a failure that no other attempt would mend. A
call ends with the first response of either kind, whatever retries and relocations it has left, and
goes on after any other one as long as it can.
-/

namespace Failover

/-! ## Responses that end the matter -/

namespace Response

/-- Whether a response has a status of success. -/
def IsSuccess (r : Response) : Prop := 200 ≤ r.status.code ∧ r.status.code < 300

/-- Whether a response sends the caller from the URL that was asked to another address. -/
def Redirects (r : Response) (requested : Url) : Prop :=
  r.status.code ∈ [301, 302, 303, 307, 308] ∧ ∃ value text address,
    r.headers.get? "location" = some value ∧ Header.valueText? value = some text ∧
      requested.resolve text = .ok address

/-- Whether a response is a failure that no other attempt would mend. -/
structure IsFatal (r : Response) (requested : Url) : Prop where
  failed : ¬r.IsSuccess
  unthrottled : r.status.code ≠ 429
  available : r.status.code ≠ 503
  stays : ¬r.Redirects requested

end Response

/-- The response that an outcome surfaces, of a success or of a failure. -/
def Outcome.surfaced? : Outcome → Option (Except Response Response)
  | .success response => some (.ok response)
  | .fatal _ response => response.map .error
  | _ => none

/-- A response has an address to go to exactly if its header spells one. -/
theorem Outcome.location?_eq_ok_iff {headers : Headers} {requested : Url} :
    (∃ address, location? headers requested = some (.ok address)) ↔
      ∃ value text address, headers.get? "location" = some value ∧
        Header.valueText? value = some text ∧ requested.resolve text = .ok address := by
  rw [location?]
  cases headers.get? "location" with
  | none => simp
  | some value =>
    cases spelled : Header.valueText? value with
    | none => simp [spelled]
    | some text =>
      cases resolved : requested.resolve text with
      | error error => simp [spelled, resolved, Except.toOption]
      | ok address => simp [spelled, resolved, Except.toOption]

namespace Response

variable {r : Response} {requested : Url}

theorem isSuccess_iff : r.status.isSuccess = true ↔ r.IsSuccess := by
  simp [Status.isSuccess, IsSuccess]

theorem isThrottled_iff : r.status.isThrottled = true ↔ r.status.code = 429 := beq_iff_eq

theorem isUnavailable_iff : r.status.isUnavailable = true ↔ r.status.code = 503 := beq_iff_eq

theorem isRedirect_iff : r.status.isRedirect = true ↔ r.status.code ∈ [301, 302, 303, 307, 308] :=
  List.contains_iff_mem

/-- A response without an address to go to redirects nobody. -/
theorem not_redirects
    (none' : ∀ address, Outcome.location? r.headers requested ≠ some (.ok address)) :
    ¬r.Redirects requested := by
  rintro ⟨_, spelled⟩
  obtain ⟨address, found⟩ := Outcome.location?_eq_ok_iff.mpr spelled
  exact none' address found

/-- What a response surfaces: itself, as a success if its status says so and as a failure if no
other attempt would mend it, or else nothing. -/
theorem surfaced?_cases (clock : Clock) (requested : Url) (r : Response) :
    (r.IsSuccess ∧ (Outcome.ofResponse clock requested r).surfaced? = some (.ok r)) ∨
    (r.IsFatal requested ∧ (Outcome.ofResponse clock requested r).surfaced? = some (.error r)) ∨
    (¬r.IsSuccess ∧ ¬r.IsFatal requested ∧
      (Outcome.ofResponse clock requested r).surfaced? = none) := by
  rw [Outcome.ofResponse]
  by_cases success : r.status.isSuccess = true
  · rw [if_pos success]
    exact .inl ⟨isSuccess_iff.mp success, rfl⟩
  rw [if_neg success]
  rw [isSuccess_iff] at success
  by_cases throttled : r.status.isThrottled = true
  · rw [if_pos throttled]
    exact .inr (.inr ⟨success, fun fatal => fatal.unthrottled (isThrottled_iff.mp throttled), rfl⟩)
  rw [if_neg throttled]
  rw [isThrottled_iff] at throttled
  by_cases unavailable : r.status.isUnavailable = true
  · rw [if_pos unavailable]
    exact .inr (.inr
      ⟨success, fun fatal => fatal.available (isUnavailable_iff.mp unavailable), rfl⟩)
  rw [if_neg unavailable]
  rw [isUnavailable_iff] at unavailable
  by_cases redirect : r.status.isRedirect = true
  · rw [if_pos redirect]
    split
    · rename_i address found
      have away : r.Redirects requested :=
        ⟨isRedirect_iff.mp redirect, Outcome.location?_eq_ok_iff.mp ⟨address, found⟩⟩
      exact .inr (.inr ⟨success, fun fatal => fatal.stays away, rfl⟩)
    · rename_i found
      have stays : ¬r.Redirects requested := not_redirects (by simp [found])
      exact .inr (.inl ⟨⟨success, throttled, unavailable, stays⟩, rfl⟩)
    · rename_i found
      have stays : ¬r.Redirects requested := not_redirects (by simp [found])
      exact .inr (.inl ⟨⟨success, throttled, unavailable, stays⟩, rfl⟩)
  · rw [if_neg redirect]
    have stays : ¬r.Redirects requested := fun away => redirect (isRedirect_iff.mpr away.1)
    exact .inr (.inl ⟨⟨success, throttled, unavailable, stays⟩, rfl⟩)

end Response

namespace Exchange

variable {x : Exchange} {r : Response}

/-- An exchange without a response surfaces none. -/
theorem surfaced?_of_error {error : TransportError} (h : x.result = .error error) :
    x.outcome.surfaced? = none := by
  rw [outcome, h]
  cases error <;> rfl

/-- Whether an exchange came to a response that ends the matter, as a success or as a failure. -/
def Surfaces (x : Exchange) : Except Response Response → Prop
  | .ok r => x.result = .ok r ∧ r.IsSuccess
  | .error r => x.result = .ok r ∧ r.IsFatal x.url

/-- The outcome of an exchange surfaces the response that ends the matter, and none else. -/
theorem surfaced?_eq_some_iff {answer : Except Response Response} :
    x.outcome.surfaced? = some answer ↔ x.Surfaces answer := by
  cases result : x.result with
  | error error =>
    rw [surfaced?_of_error result]
    cases answer <;> simp [Surfaces, result]
  | ok r =>
    have outcome : x.outcome = .ofResponse x.ended x.url r := by
      rw [Exchange.outcome, result]
      rfl
    have surfaces : x.Surfaces answer ↔
        (answer = .ok r ∧ r.IsSuccess) ∨ (answer = .error r ∧ r.IsFatal x.url) := by
      cases answer <;> simp only [Surfaces, result] <;> grind
    rw [outcome, surfaces]
    rcases r.surfaced?_cases x.ended x.url with
      ⟨success, own⟩ | ⟨fatal, own⟩ | ⟨unsuccessful, mendable, own⟩
    · have other : ¬r.IsFatal x.url := fun fatal => fatal.failed success
      simp [own, success, other, eq_comm]
    · simp [own, fatal, fatal.failed, eq_comm]
    · simp [own, unsuccessful, mendable]

end Exchange

/-! ## What a call is about to surface -/

/-- The response that the result of a call shows to its caller. -/
def CallResult.surfaced? : CallResult → Option (Except Response Response)
  | .ok success => some (.ok success.response)
  | .error error => error.failure.response?.map .error

theorem CallResult.of_surfaced?_ok {result : CallResult} {r : Response}
    (h : result.surfaced? = some (.ok r)) :
    ∃ success, result = .ok success ∧ success.response = r := by
  cases result with
  | ok success =>
    cases h
    exact ⟨success, rfl, rfl⟩
  | error error =>
    obtain ⟨_, _, other⟩ := Option.map_eq_some_iff.mp h
    cases other

theorem CallResult.of_surfaced?_error {result : CallResult} {r : Response}
    (h : result.surfaced? = some (.error r)) :
    ∃ error cause, result = .error error ∧ error.failure = .fatal cause (some r) := by
  cases result with
  | ok success => cases h
  | error error =>
    obtain ⟨other, came, same⟩ := Option.map_eq_some_iff.mp h
    cases same
    cases failure : error.failure with
    | fatal cause response =>
      rw [failure] at came
      exact ⟨error, cause, rfl, by rw [failure]; exact congrArg _ came⟩
    | _ =>
      rw [failure] at came
      cases came

/-- The response that a call at this point shows to its caller, or is about to. -/
def Point.surfaced? : Point → Option (Except Response Response)
  | .entering (.succeeded response) => some (.ok response)
  | .entering (.failed failure) => failure.response?.map .error
  | .finished result => result.surfaced?
  | _ => none

namespace Account

/-- The response that an attempt surfaces. -/
def surfaced? : Account → Option (Except Response Response)
  | .served x _ => x.outcome.surfaced?
  | .refused _ _ _ _ => none

/-- The exchange of an attempt whose request was sent. -/
def sent? (o : CallOptions) : Account → Option Exchange
  | .served x _ =>
    match o.request.sentTo x.url with
    | .ok _ => some x
    | .error _ => none
  | .refused _ _ _ _ => none

end Account

/-- The exchanges over the network that attempts of these accounts made. -/
def exchanges (o : CallOptions) (accounts : List Account) : List Exchange :=
  accounts.filterMap (Account.sent? o)

namespace Session

variable {e : Engine} {s t a : Session e.endpoints} {o : CallOptions} {accounts : List Account}
  {waits : List Span} {clock : Clock} {url : Url} {front : List Event}

/-- A retry surfaces nothing. -/
theorem retry_surfaces {c call : Call} {drawn : Nat} {after : Option Span}
    {exhausted : CallFailure} {phase : Phase} {events : List Event}
    (h : c.retry e drawn after exhausted = (call, phase, events))
    (none' : exhausted.response? = none) : (Point.entering phase).surfaced? = none := by
  rcases Call.retry_pause h with ⟨_, rfl⟩ | ⟨own, _, _, rfl⟩
  · rw [Point.surfaced?, none']
    rfl
  · rfl

/-- What follows an attempt surfaces what its outcome does. -/
theorem follow_surfaces (drawn : Nat) (s : Session e.endpoints) (outcome : Outcome) :
    (follow e drawn s outcome).1.point.surfaced? = outcome.surfaced? := by
  have retried : ∀ after exhausted, exhausted.response? = none →
      (Point.entering (s.call.retry e drawn after exhausted).2.1).surfaced? = none := by
    intro after exhausted none'
    cases h : s.call.retry e drawn after exhausted
    exact retry_surfaces h none'
  cases outcome with
  | transportFailure cause => exact retried none (.transport cause) rfl
  | throttled after => exact retried after .throttled rfl
  | _ => rfl

theorem settle_surfaces (drawn started : Nat) (result : Except TransportError Response) :
    (settle e clock drawn a url started result).1.point.surfaced? =
      (a.exchange clock url started result).outcome.surfaced? := follow_surfaces ..

/-- What a step does to the response that a call is about to surface: nothing, or an attempt ends,
and what it surfaces is what the call is about to surface. -/
inductive Surfaces (s t : Session e.endpoints) : List Account → Prop
  | quiet (same : t.point.surfaced? = s.point.surfaced?) : Surfaces s t []
  | ends {r : Account} (none' : s.point.surfaced? = none)
      (own : t.point.surfaced? = r.surfaced?) : Surfaces s t [r]

/-- A session that asks for a permit is about to surface nothing. -/
theorem Asks.surfaced? (asks : Asks s a url front) : s.point.surfaced? = none := by
  cases asks with
  | anew stands read => rw [stands]; rfl
  | again stands => rw [stands]; rfl

theorem Asks.surfaces (asks : Asks s a url front) (drawn : Nat) :
    Surfaces s (seekPermit e clock drawn a url).1 (answered clock a url) := by
  rcases answer : (a.limiter clock).acquire with ⟨granted | error | signals, c, events⟩
  · cases built : a.call.request.sentTo url with
    | ok request =>
      have sent : (a.withLimiter c).call.request.sentTo url = .ok request := built
      simp only [answered, seekPermit, answer, send, sent, built]
      exact .quiet asks.surfaced?.symm
    | error error =>
      have unsent : (a.withLimiter c).call.request.sentTo url = .error error := built
      simp only [answered, seekPermit, answer, send, unsent, built]
      exact .ends asks.surfaced? (settle_surfaces (a := a.withLimiter c) ..)
  · rcases retried : (a.call.record a.call.refusal).retry e drawn none (.capacity error) with
      ⟨call, phase, more⟩
    have met : (seekPermit e clock drawn a url).1 = (a.withLimiter c).toward call phase := by
      simp only [Call.refusal] at retried
      simp only [seekPermit, answer, retried]
    simp only [answered, answer]
    rw [met]
    exact .ends asks.surfaced? (retry_surfaces retried rfl)
  · simp only [answered, seekPermit, answer]
    exact .quiet asks.surfaced?.symm

/-- A step is that of a call that asks for a permit, or of one that hears how its exchange ended, or
it ends no attempt and leaves what the call is about to surface. -/
theorem meet_cases (s : Session e.endpoints) (x : Encounter) :
    (∃ a url front, Asks s a url front) ∨
    (∃ url started request, s.point = .exchanging url started request) ∨
    (ended s x = [] ∧ (meet e s x).1.point.surfaced? = s.point.surfaced?) := by
  cases stands : s.point with
  | waiting url signals => exact .inl ⟨s, url, [], .again stands⟩
  | exchanging url started request => exact .inr (.inl ⟨url, started, request, rfl⟩)
  | pausing moment =>
    refine .inr (.inr ⟨by simp only [ended, stands], ?_⟩)
    simp only [meet, stands]
    split
    · rfl
    · rw [stands]
  | finished result => exact .inr (.inr (by simp only [ended, meet, stands, true_and]))
  | entering phase =>
    cases phase with
    | attempting =>
      cases read : Url.parse (target s.call.endpoint s.call.path) with
      | ok url => exact .inl ⟨_, url, _, .anew stands read⟩
      | error error =>
        refine .inr (.inr ⟨by simp only [ended, stands, read], ?_⟩)
        simp only [meet, stands, enter, attempt_of_error read]
        rfl
    | relocating aim delay =>
      refine .inr (.inr ⟨by simp only [ended, stands], ?_⟩)
      cases moved : s.call.selector.relocate aim with
      | ok moved' =>
        simp only [meet, stands, enter, relocate, moved]
        rfl
      | error error => cases error <;> simp only [meet, stands, enter, relocate, moved] <;> rfl
    | _ =>
      refine .inr (.inr ⟨by simp only [ended, stands], ?_⟩)
      simp only [meet, stands, enter]
      rfl

theorem meet_surfaces (s : Session e.endpoints) (x : Encounter) :
    Surfaces s (meet e s x).1 (ended s x) := by
  rcases meet_cases s x with ⟨a, url, front, asks⟩ | ⟨url, started, request, stands⟩ | ⟨none', same⟩
  · rw [meet_asks asks, asks.ended]
    exact asks.surfaces x.drawn
  · simp only [ended, meet, stands]
    exact .ends (by rw [stands]; rfl) (settle_surfaces ..)
  · rw [none']
    exact .quiet same

/-! ## What is sent -/

theorem Asks.request (asks : Asks s a url front) : a.call.request = s.call.request := by
  cases asks <;> rfl

theorem settle_request {drawn started : Nat} {result : Except TransportError Response}
    {events : List Event} (settled : settle e clock drawn s url started result = (t, events)) :
    t.call.request = s.call.request := by
  obtain ⟨x, _, rfl, _⟩ := settle_follow settled
  exact congrArg (·.request) (follow_call_frame drawn (s.told x) x.outcome)

/-- A step leaves a call the request that it was made of. -/
theorem Transition.request {events : List Event} (row : Transition e clock s t events) :
    t.call.request = s.call.request := by
  cases row with
  | waits asks answer => exact asks.request
  | refused asks answer retried =>
    obtain ⟨_, same, _⟩ := Call.retry_silent retried
    exact same.trans asks.request
  | sends asks answer built => exact asks.request
  | unsendable asks answer bad settled => exact (settle_request settled).trans asks.request
  | hears stands settled => exact settle_request settled
  | _ => rfl

/-- Only a call whose request can be built is in an exchange. -/
theorem Transition.built {events : List Event} (row : Transition e clock s t events)
    {started : Nat} {request : WireRequest} (stands : t.point = .exchanging url started request) :
    t.call.request.sentTo url = .ok request := by
  -- all other ways lead to another point
  have entered : (∃ phase, t.point = .entering phase) →
      t.call.request.sentTo url = .ok request := by
    rintro ⟨phase, other⟩
    rw [stands] at other
    cases other
  cases row with
  | sends asks answer built =>
    cases stands
    exact built
  | unsendable asks answer bad settled => exact entered (settle_enters settled)
  | hears _ settled => exact entered (settle_enters settled)
  | _ => cases stands

/-- An attempt that ends where it asks for a permit is honest. -/
theorem isHonest_of_mem_answered (request : a.call.request = o.request) :
    ∀ r ∈ answered clock a url, r.IsHonest o := by
  intro r among
  rcases answer : (a.limiter clock).acquire with ⟨granted | error | signals, c, events⟩
  · cases sent : a.call.request.sentTo url with
    | ok wire => simp [answered, answer, sent] at among
    | error error =>
      simp only [answered, answer, sent, List.mem_singleton] at among
      subst among
      intro other unsent
      rw [← request] at unsent
      exact congrArg Except.error (Except.error.inj (sent.symm.trans unsent))
  · simp only [answered, answer, List.mem_singleton] at among
    subst among
    trivial
  · simp [answered, answer] at among

/-- The attempts that a step ends are honest, if the call sends what it was asked to. -/
theorem isHonest_of_mem_ended {x : Encounter} (request : s.call.request = o.request)
    (built : ∀ url started request, s.point = .exchanging url started request →
      o.request.sentTo url = .ok request) : ∀ r ∈ ended s x, r.IsHonest o := by
  rcases meet_cases s x with ⟨a, url, front, asks⟩ | ⟨url, started, wire, stands⟩ | ⟨none', _⟩
  · rw [asks.ended]
    exact isHonest_of_mem_answered (asks.request.trans request)
  · intro r among
    simp only [ended, stands, List.mem_singleton] at among
    subst among
    intro error unsent
    cases (built url started wire stands).symm.trans unsent
  · rw [none']
    exact List.forall_mem_nil _

/-! ## What a whole run keeps -/

/-- A call with the accounts of its attempts: none of them surfaces a response but the last one, and
what this one surfaces is what the call does. -/
structure Answers (o : CallOptions) (s : Session e.endpoints) (accounts : List Account) : Prop where
  request : s.call.request = o.request
  built : ∀ url started request, s.point = .exchanging url started request →
    o.request.sentTo url = .ok request
  honest : ∀ r ∈ accounts, r.IsHonest o
  before : ∀ r ∈ accounts.dropLast, r.surfaced? = none
  last : s.point.surfaced? = accounts.getLast?.bind Account.surfaced?

/-- Where the call is about to surface nothing, no attempt has surfaced anything. -/
theorem Answers.forall_none (h : s.Answers o accounts) (none' : s.point.surfaced? = none) :
    ∀ r ∈ accounts, r.surfaced? = none := by
  intro r among
  have last := h.last
  rw [none'] at last
  rcases List.eq_nil_or_concat' accounts with rfl | ⟨before, l, rfl⟩
  · cases among
  · rw [List.getLast?_concat] at last
    rcases List.mem_append.mp among with earlier | same
    · exact h.before r (by simpa using earlier)
    · rw [List.mem_singleton.mp same]
      exact last.symm

theorem Answers.meet (h : s.Answers o accounts) (x : Encounter) :
    (Session.meet e s x).1.Answers o (accounts ++ ended s x) := by
  have moved : (Session.meet e s x).1.call.request = s.call.request ∧
      ∀ url started request, (Session.meet e s x).1.point = .exchanging url started request →
        o.request.sentTo url = .ok request := by
    rcases meet_step s x with ⟨_, same⟩ | step
    · rw [same]
      exact ⟨rfl, h.built⟩
    · have own := step.transition.request
      refine ⟨own, fun url started request stands => ?_⟩
      rw [← h.request, ← own]
      exact step.transition.built stands
  obtain ⟨request, built⟩ := moved
  have honest : ∀ r ∈ accounts ++ ended s x, r.IsHonest o := by
    intro r among
    rcases List.mem_append.mp among with old | new
    · exact h.honest r old
    · exact isHonest_of_mem_ended h.request h.built r new
  have surfaces := meet_surfaces s x
  generalize ended s x = new at surfaces honest ⊢
  refine ⟨request.trans h.request, built, honest, ?_, ?_⟩
  · cases surfaces with
    | quiet same => simpa using h.before
    | ends none' own => simpa using h.forall_none none'
  · cases surfaces with
    | quiet same => simpa using same.trans h.last
    | ends none' own => simpa using own

variable {shared : Shared e.endpoints}

theorem Paced.answers (run : Paced e (start e clock shared o).1 t accounts waits) :
    t.Answers o accounts := by
  induction run with
  | starts =>
    refine ⟨rfl, ?_, List.forall_mem_nil _, List.forall_mem_nil _, rfl⟩
    intro url started request stands
    cases stands
  | @goes s accounts _ _ change x ih =>
    have changed : Answers o { s with shared := change } accounts :=
      ⟨ih.request, ih.built, ih.honest, ih.before, ih.last⟩
    exact changed.meet x

/-! ## The main result -/

/-- An exchange belongs to an attempt that had its permit. -/
theorem exists_served_of_mem_exchanges {x : Exchange} (h : x ∈ exchanges o accounts) :
    ∃ limiter, .served x limiter ∈ accounts := by
  obtain ⟨r, among, sent⟩ := List.mem_filterMap.mp h
  cases r with
  | served y limiter =>
    simp only [Account.sent?] at sent
    split at sent
    · cases sent
      exact ⟨limiter, among⟩
    · cases sent
  | refused attempt endpoint error moment => cases sent

theorem exchanges_concat (o : CallOptions) (before : List Account) (r : Account) :
    exchanges o (before ++ [r]) = exchanges o before ++ (r.sent? o).toList := by
  cases sent : r.sent? o <;> simp [exchanges, sent]

/-- Where a call is about to surface a response, it is that of its last exchange. -/
theorem Answers.exists_last (h : s.Answers o accounts) {answer : Except Response Response}
    (some' : s.point.surfaced? = some answer) :
    ∃ before x, exchanges o accounts = before ++ [x] ∧ x.Surfaces answer := by
  have last := h.last
  rw [some'] at last
  obtain ⟨r, at', own⟩ := Option.bind_eq_some_iff.mp last.symm
  obtain ⟨before, rfl⟩ := List.getLast?_eq_some_iff.mp at'
  cases r with
  | refused attempt endpoint error moment => cases own
  | served x limiter =>
    have surfaces : x.Surfaces answer := x.surfaced?_eq_some_iff.mp own
    refine ⟨exchanges o before, x, ?_, surfaces⟩
    -- an attempt with a response has sent its request
    have sent : Account.sent? o (.served x limiter) = some x := by
      cases built : o.request.sentTo x.url with
      | ok wire => simp only [Account.sent?, built]
      | error error =>
        have unsent := h.honest _ (List.mem_append_right _ List.mem_cons_self) error built
        cases answer <;> cases unsent.symm.trans surfaces.1
    rw [exchanges_concat, sent]
    rfl

/-- No exchange but the last has surfaced a response. -/
theorem Answers.not_surfaces (h : s.Answers o accounts) {x : Exchange}
    (earlier : x ∈ (exchanges o accounts).dropLast) (answer : Except Response Response) :
    ¬x.Surfaces answer := by
  intro surfaces
  rcases List.eq_nil_or_concat' accounts with rfl | ⟨before, last, rfl⟩
  · cases earlier
  · have among : x ∈ exchanges o before := by
      rw [exchanges_concat] at earlier
      cases sent : last.sent? o with
      | none =>
        rw [sent, Option.toList_none, List.append_nil] at earlier
        exact List.dropLast_subset _ earlier
      | some y =>
        rw [sent, Option.toList_some, List.dropLast_concat] at earlier
        exact earlier
    obtain ⟨limiter, served⟩ := exists_served_of_mem_exchanges among
    have none' := h.before (.served x limiter) (by simpa using served)
    cases none'.symm.trans (x.surfaced?_eq_some_iff.mpr surfaces)

/-- If the last exchange surfaces a response, the call does. -/
theorem Answers.surfaced?_of_last (h : s.Answers o accounts) {x : Exchange}
    (last : (exchanges o accounts).getLast? = some x) {answer : Except Response Response}
    (surfaces : x.Surfaces answer) : s.point.surfaced? = some answer := by
  have own := x.surfaced?_eq_some_iff.mpr surfaces
  cases about : s.point.surfaced? with
  | none =>
    obtain ⟨limiter, served⟩ := exists_served_of_mem_exchanges (List.mem_of_getLast? last)
    cases (h.forall_none about _ served).symm.trans own
  | some other =>
    obtain ⟨before, y, all, surfaces'⟩ := h.exists_last about
    rw [all, List.getLast?_concat] at last
    cases last
    rw [← own, ← x.surfaced?_eq_some_iff.mpr surfaces']

/-- Only responses that end the matter are shown to a caller, as they were received. A call that
succeeds has the response of its last exchange, whose status says success; one that fails with a
response has that of its last exchange as well, which no other attempt would mend: it is no success,
sheds no load, turns nobody away and redirects nobody. No exchange before the last one came to a
response of either kind, and if the last one did, the call shows it. So it ends with the first such
response, whatever it may still do, and never shows another one. -/
theorem final_answers_surface (run : Paced e (start e clock shared o).1 t accounts waits)
    {result : CallResult} (ended : t.point = .finished result) :
    (∀ success, result = .ok success → ∃ x, (exchanges o accounts).getLast? = some x ∧
      x.result = .ok success.response ∧ success.response.IsSuccess) ∧
    (∀ error cause r, result = .error error → error.failure = .fatal cause (some r) →
      ∃ x, (exchanges o accounts).getLast? = some x ∧ x.result = .ok r ∧ r.IsFatal x.url) ∧
    (∀ x ∈ (exchanges o accounts).dropLast, ∀ r, x.result = .ok r →
      ¬r.IsSuccess ∧ ¬r.IsFatal x.url) ∧
    ∀ x, (exchanges o accounts).getLast? = some x → ∀ r, x.result = .ok r →
      (r.IsSuccess → ∃ success, result = .ok success ∧ success.response = r) ∧
      (r.IsFatal x.url → ∃ error cause, result = .error error ∧
        error.failure = .fatal cause (some r)) := by
  have answers := run.answers
  have shown : t.point.surfaced? = result.surfaced? := by
    rw [ended]
    rfl
  have last : ∀ answer, result.surfaced? = some answer →
      ∃ x, (exchanges o accounts).getLast? = some x ∧ x.Surfaces answer := by
    intro answer own
    obtain ⟨before, x, all, surfaces⟩ := answers.exists_last (shown.trans own)
    exact ⟨x, by rw [all, List.getLast?_concat], surfaces⟩
  refine ⟨?_, ?_, ?_, ?_⟩
  · rintro success rfl
    exact last (.ok success.response) rfl
  · rintro error cause r rfl fatal
    refine last (.error r) ?_
    rw [CallResult.surfaced?, fatal]
    rfl
  · intro x earlier r came
    exact ⟨fun success => answers.not_surfaces earlier (.ok r) ⟨came, success⟩,
      fun fatal => answers.not_surfaces earlier (.error r) ⟨came, fatal⟩⟩
  · intro x at' r came
    have own : ∀ answer, x.Surfaces answer → result.surfaced? = some answer := by
      intro answer surfaces
      exact shown.symm.trans (answers.surfaced?_of_last at' surfaces)
    exact ⟨fun success => CallResult.of_surfaced?_ok (own (.ok r) ⟨came, success⟩),
      fun fatal => CallResult.of_surfaced?_error (own (.error r) ⟨came, fatal⟩)⟩

/-- A call that is turned away once, moves on, and finds nothing there: what it meets. -/
def misled : List Encounter :=
  let meets (result : Except TransportError Response) : Encounter := ⟨⟨0, 0⟩, 0, result⟩
  let quiet := meets (.error (.timeout Span.zero))
  [quiet, quiet, meets (.ok ⟨⟨503⟩, [], []⟩), quiet, quiet, quiet,
    meets (.ok ⟨⟨404⟩, [⟨"server", [97]⟩], [98]⟩), quiet]

/-- The answer that nothing was found is shown as it was received, with all retries left. -/
theorem final_answers_surface_notFound :
    ∃ t accounts waits error, Paced patient
        (start patient ⟨0, 0⟩ patient.fresh ⟨.of "GET" "/", none, .empty⟩).1 t accounts waits ∧
      t.point = .finished (.error error) ∧
      error.failure = .fatal (.status ⟨404⟩) (some ⟨⟨404⟩, [⟨"server", [97]⟩], [98]⟩) ∧
      ∃ x, (exchanges ⟨.of "GET" "/", none, .empty⟩ accounts).getLast? = some x ∧
        x.result = .ok ⟨⟨404⟩, [⟨"server", [97]⟩], [98]⟩ := by
  let first := (start patient ⟨0, 0⟩ patient.fresh ⟨.of "GET" "/", none, .empty⟩).1
  have run := (@Paced.starts patient first).passes misled
  rw [List.nil_append, List.nil_append] at run
  have fails : (passes patient first misled).1.point.result?.bind (·.failure?) =
      some (.fatal (.status ⟨404⟩) (some ⟨⟨404⟩, [⟨"server", [97]⟩], [98]⟩)) := by decide +kernel
  generalize passes patient first misled = p at run fails
  obtain ⟨result, stands, failure⟩ := Option.bind_eq_some_iff.mp fails
  have ended := Point.result?_eq_some_iff.mp stands
  cases result with
  | ok success => cases failure
  | error error =>
    have fatal : error.failure = _ := Option.some.inj failure
    obtain ⟨x, last, came, _⟩ := (final_answers_surface run ended).2.1 error _ _ rfl fatal
    exact ⟨_, _, _, error, run, ended, fatal, x, last, came⟩

end Session
end Failover
