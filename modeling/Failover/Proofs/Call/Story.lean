import Failover.Proofs.Call.Budget
import Failover.Proofs.Call.Course
import Failover.Proofs.Endpoint.Ring

/-!
# The story of a call

The result of a call carries a record of each of its attempts, and they tell how it came to it. A
record is written where the attempt was made and before the call goes on, and the phase that the
call goes on to is the one that the record asks for; so at the end the last record says why. The
trail keeps the records and the marks of the walk together: a walk that finds no endpoint left has
left a record at each of them.
-/

namespace Failover

/-! ## What is said at the end -/

/-- Whether an attempt that ended so is the last one, whatever the call may still do. -/
def Verdict.isFinal : Verdict → Bool
  | .success | .fatal => true
  | _ => false

/-- What an attempt has come to that a call moves on from so. -/
def Relocation.verdict : Relocation → Verdict
  | .next => .unavailable
  | .redirect _ => .redirect

/-- What the last attempt may have come to if a call fails so. -/
def CallFailure.verdicts : CallFailure → List Verdict
  | .transport _ => [.transportFailure]
  | .throttled => [.throttled]
  | .capacity _ => [.admissionRefused]
  | .endpoints => [.unavailable]
  | .relocations _ => [.unavailable, .redirect]
  | .fatal _ _ => [.fatal]

namespace CallResult

def history : CallResult → List AttemptRecord
  | .ok success => success.history
  | .error error => error.history

def attempts : CallResult → Nat
  | .ok success => success.attempts
  | .error error => error.attempts

/-- The endpoint that served the call, or the last one. -/
def endpoint : CallResult → Url
  | .ok success => success.endpoint
  | .error error => error.lastEndpoint

def failure? : CallResult → Option CallFailure
  | .ok _ => none
  | .error error => some error.failure

end CallResult

/-- The result of a call at its end. -/
def Point.result? : Point → Option CallResult
  | .finished result => some result
  | _ => none

theorem Point.result?_eq_some_iff {p : Point} {result : CallResult} :
    p.result? = some result ↔ p = .finished result := by
  cases p <;> simp [result?]

namespace Call

/-- The result of a call that ends here with a response or a failure. -/
def result (c : Call) : Except CallFailure Response → CallResult
  | .ok response => .ok ⟨response, c.attempts, c.relocations, c.endpoint, c.history⟩
  | .error failure => .error ⟨failure, c.attempts, c.endpoint, c.history⟩

/-! ## Records -/

/-- The records are numbered from one, and each attempt has one, but for as many as are told. -/
structure Recorded (c : Call) (unrecorded : Nat) : Prop where
  numbered : c.history.map (·.attempt) = List.range' 1 c.history.length
  attempts : c.history.length + unrecorded = c.attempts

/-- No attempt so far was to be the last one. -/
def IsOpen (c : Call) : Prop := ∀ r ∈ c.history, r.verdict.isFinal = false

/-- The last attempt was made where the call stands, and has come to this. None before it was to be
the last one. -/
def EndsWith (c : Call) (v : Verdict) : Prop :=
  ∃ before last, c.history = before ++ [last] ∧ (∀ r ∈ before, r.verdict.isFinal = false) ∧
    last.endpoint = c.endpoint.text ∧ last.verdict = v

/-- The failure that a call owes to an attempt that has come to this, when it can do no more. -/
inductive Owes (c : Call) : Verdict → CallFailure → Prop
  | transport (cause : TransportError) : Owes c .transportFailure (.transport cause)
  | throttled : Owes c .throttled .throttled
  | capacity (cause : AdmissionError) : Owes c .admissionRefused (.capacity cause)
  | fatal (cause : FatalCause) (response : Option Response) : Owes c .fatal (.fatal cause response)
  | endpoints (room : c.relocations < c.selector.limit) (none : c.selector.next? = none) :
      Owes c .unavailable .endpoints
  | relocations (aim : Relocation) (full : c.selector.limit ≤ c.relocations) :
      Owes c aim.verdict (.relocations c.selector.limit)

/-- The ways in which a call ends: served, failed as it owes to its last attempt, or with an attempt
for which there was no URL to ask and which has no record. -/
inductive Ended (c : Call) : Except CallFailure Response → Prop
  | served (response : Response) (recorded : c.Recorded 0) (last : c.EndsWith .success) :
      Ended c (.ok response)
  | failed {failure : CallFailure} {v : Verdict} (recorded : c.Recorded 0) (last : c.EndsWith v)
      (owes : c.Owes v failure) : Ended c (.error failure)
  | unread {error : UrlError} (recorded : c.Recorded 1) (isOpen : c.IsOpen)
      (bad : Url.parse (target c.endpoint c.path) = .error error) :
      Ended c (.error (.fatal (.invalidRequest error.message) none))

/-- What the records tell of a call at a point. -/
def Story (c : Call) : Point → Prop
  | .entering .init | .entering .attempting | .entering (.backingOff _) | .pausing _ =>
    c.Recorded 0 ∧ c.IsOpen
  | .waiting _ _ | .exchanging _ _ _ => c.Recorded 1 ∧ c.IsOpen
  | .entering (.relocating aim _) => c.Recorded 0 ∧ c.IsOpen ∧ c.EndsWith aim.verdict
  | .entering (.succeeded response) => c.Ended (.ok response)
  | .entering (.failed failure) => c.Ended (.error failure)
  | .finished result => ∃ ending, result = c.result ending ∧ c.Ended ending

variable {c : Call} {r : AttemptRecord}

theorem Recorded.record (h : c.Recorded 1) (number : r.attempt = c.attempts) :
    (c.record r).Recorded 0 where
  numbered := by
    have attempts := h.attempts
    show (c.history ++ [r]).map (·.attempt) = List.range' 1 (c.history ++ [r]).length
    rw [List.map_append, h.numbered, List.length_append, List.length_singleton,
      List.range'_1_concat, List.map_singleton, number, ← attempts, Nat.add_comm]
  attempts := by
    have attempts := h.attempts
    show (c.history ++ [r]).length + 0 = c.attempts
    rw [List.length_append, List.length_singleton]
    omega

theorem IsOpen.record (h : c.IsOpen) (open' : r.verdict.isFinal = false) :
    (c.record r).IsOpen := by
  intro r' among
  rcases List.mem_append.mp among with old | new
  · exact h r' old
  · rw [List.mem_singleton.mp new]
    exact open'

theorem IsOpen.endsWith (h : c.IsOpen) (here : r.endpoint = c.endpoint.text) :
    (c.record r).EndsWith r.verdict := ⟨c.history, r, rfl, h, here, rfl⟩

/-- What follows a recorded attempt that may be repeated. -/
theorem Story.retry {e : Engine} {call : Call} {drawn : Nat} {after : Option Span}
    {exhausted : CallFailure} {phase : Phase} {events : List Event} (recorded : c.Recorded 0)
    (isOpen : c.IsOpen) {v : Verdict} (last : c.EndsWith v) (owes : c.Owes v exhausted)
    (retried : c.retry e drawn after exhausted = (call, phase, events)) :
    call.Story (.entering phase) := by
  rcases retry_cases retried with ⟨same, failed⟩ | ⟨cursor, delay, paid, pause, _⟩
  · rw [same, failed]
    exact .failed recorded last owes
  · rw [paid, pause]
    exact ⟨⟨recorded.numbered, recorded.attempts⟩, isOpen⟩

@[simp] theorem history_result (c : Call) (ending : Except CallFailure Response) :
    (c.result ending).history = c.history := by cases ending <;> rfl

@[simp] theorem attempts_result (c : Call) (ending : Except CallFailure Response) :
    (c.result ending).attempts = c.attempts := by cases ending <;> rfl

@[simp] theorem endpoint_result (c : Call) (ending : Except CallFailure Response) :
    (c.result ending).endpoint = c.endpoint := by cases ending <;> rfl

theorem Owes.mem_verdicts {v : Verdict} {failure : CallFailure} (h : c.Owes v failure) :
    v ∈ failure.verdicts := by
  cases h with
  | relocations aim full => cases aim <;> simp [Relocation.verdict, CallFailure.verdicts]
  | _ => exact List.mem_singleton_self _

/-- No failure follows an attempt that succeeded. -/
theorem success_notMem_verdicts (failure : CallFailure) : .success ∉ failure.verdicts := by
  cases failure <;> simp [CallFailure.verdicts]

/-- What the records tell of a call that has ended. -/
theorem Ended.records {ending : Except CallFailure Response} (h : c.Ended ending) :
    c.history.map (·.attempt) = List.range' 1 c.history.length ∧
    (∀ r ∈ c.history.dropLast, r.verdict.isFinal = false) ∧
    ((c.result ending).isOk ↔ ∃ last, c.history.getLast? = some last ∧ last.verdict = .success) ∧
    (c.history.length = c.attempts ∧
        (∃ last, c.history.getLast? = some last ∧ last.endpoint = c.endpoint.text ∧
          ∀ failure, (c.result ending).failure? = some failure →
            last.verdict ∈ failure.verdicts) ∨
      c.history.length + 1 = c.attempts ∧
        ∃ error, Url.parse (target c.endpoint c.path) = .error error ∧
          (c.result ending).failure? = some (.fatal (.invalidRequest error.message) none)) := by
  -- the last record decides, where there is one for the last attempt
  have recorded : ∀ {v : Verdict}, c.EndsWith v →
      (∀ r ∈ c.history.dropLast, r.verdict.isFinal = false) ∧
      ∃ last, c.history.getLast? = some last ∧ last.endpoint = c.endpoint.text ∧
        last.verdict = v := by
    rintro v ⟨before, last, all, isOpen, here, verdict⟩
    rw [all, List.dropLast_concat, List.getLast?_concat]
    exact ⟨isOpen, last, rfl, here, verdict⟩
  cases h with
  | served response numbers ends =>
    obtain ⟨isOpen, last, at', here, verdict⟩ := recorded ends
    exact ⟨numbers.numbered, isOpen, ⟨fun _ => ⟨last, at', verdict⟩, fun _ => rfl⟩,
      .inl ⟨numbers.attempts, last, at', here, nofun⟩⟩
  | @failed failure v numbers ends owes =>
    obtain ⟨isOpen, last, at', here, verdict⟩ := recorded ends
    have among : last.verdict ∈ failure.verdicts := verdict ▸ owes.mem_verdicts
    refine ⟨numbers.numbered, isOpen, ⟨nofun, ?_⟩, .inl ⟨numbers.attempts, last, at', here, ?_⟩⟩
    · rintro ⟨other, other', success⟩
      rw [at', Option.some.injEq] at other'
      exact absurd (success ▸ other' ▸ among) (success_notMem_verdicts failure)
    · rintro _ ⟨⟩
      exact among
  | unread numbers isOpen bad =>
    refine ⟨numbers.numbered, fun r among => isOpen r (List.dropLast_subset _ among), ⟨nofun, ?_⟩,
      .inr ⟨numbers.attempts, _, bad, rfl⟩⟩
    rintro ⟨last, at', success⟩
    have open' := isOpen last (List.mem_of_getLast? at')
    rw [success] at open'
    cases open'

end Call

/-! ## The trail -/

/-- Where the attempts of a call were made, with whether one is under way: each record tells of its
own attempt, and the walk has been where an attempt was made or is to be made next. -/
structure Trail (e : Engine) (c : Call) (tried : List Nat) (underWay : Nat) : Prop where
  set : c.selector.set = e.endpoints
  standing : c.selector.IsStanding
  attempts : tried.length = c.attempts
  here : underWay = 1 → tried.getLast? = some c.selector.current
  visited : ∀ i, c.selector.isVisited i → i ∈ tried ∨ i = c.selector.current
  records : ∀ (j : Nat) (r : AttemptRecord), c.history[j]? = some r →
    ∃ i u, tried[j]? = some i ∧ c.selector.url? i = some u ∧ r.endpoint = u.text

namespace Trail

variable {e : Engine} {c : Call} {tried : List Nat} {underWay : Nat}

/-- An attempt is begun where the walk stands. -/
theorem attempt (h : Trail e c tried 0) :
    Trail e c.tried (tried ++ [c.selector.current]) 1 where
  set := h.set
  standing := h.standing
  attempts := by
    rw [List.length_append, h.attempts]
    rfl
  here _ := List.getLast?_concat
  visited i been := .inl (by
    rcases h.visited i been with before | now
    · exact List.mem_append_left _ before
    · exact List.mem_append_right _ (List.mem_singleton.mpr now))
  records j r at' := by
    obtain ⟨i, u, among, url, text⟩ := h.records j r at'
    obtain ⟨inside, _⟩ := List.getElem?_eq_some_iff.mp among
    exact ⟨i, u, by rw [List.getElem?_append_left inside, among], url, text⟩

/-- The record of the attempt under way tells where it was made. -/
theorem record (h : Trail e c tried 1) (recorded : c.Recorded 1) {r : AttemptRecord}
    (here : r.endpoint = c.endpoint.text) : Trail e (c.record r) tried 1 :=
  { h with
    records := by
      intro j r' at'
      change (c.history ++ [r])[j]? = some r' at at'
      by_cases old : j < c.history.length
      · rw [List.getElem?_append_left old] at at'
        exact h.records j r' at'
      · have last : j = c.history.length ∧ r = r' := by
          rw [List.getElem?_append_right (by omega), List.getElem?_singleton] at at'
          split at at'
          · cases at'
            exact ⟨by omega, rfl⟩
          · cases at'
        obtain ⟨rfl, rfl⟩ := last
        have count : tried.length = c.history.length + 1 := by
          rw [h.attempts, recorded.attempts]
        have at' := h.here rfl
        rw [List.getLast?_eq_getElem?, count, Nat.add_sub_cancel] at at'
        exact ⟨_, _, at', h.standing.url?_current, here⟩ }

/-- Between attempts less is said of the walk. -/
theorem between (h : Trail e c tried 1) (underWay : Nat) : Trail e c tried underWay :=
  { h with here := fun _ => h.here rfl }

theorem retry {call : Call} {drawn : Nat} {after : Option Span} {exhausted : CallFailure}
    {phase : Phase} {events : List Event} (h : Trail e c tried 1)
    (retried : c.retry e drawn after exhausted = (call, phase, events)) :
    Trail e call tried (Point.entering phase).underWay := by
  rcases Call.retry_cases retried with ⟨same, _⟩ | ⟨cursor, delay, paid, _⟩
  · rw [same]
    exact h.between _
  · rw [paid]
    exact { h.between _ with }

/-- A call that moves has made an attempt everywhere it has been before. -/
theorem relocate {aim : Relocation} {selection : Selection} {selector : Selector} {path : String}
    (h : Trail e c tried 1) (moved : c.selector.relocate aim = .ok (selection, selector)) :
    Trail e { c with selector, path } tried 0 := by
  obtain ⟨kept, standing, marks⟩ := (Selector.relocate_move moved).marks h.standing
  exact
    { set := kept.set.trans h.set
      standing
      attempts := h.attempts
      here := nofun
      visited := by
        intro i been
        rcases (marks i).mp been with before | now
        · rcases h.visited i before with among | current
          · exact .inl among
          · exact .inl (current ▸ List.mem_of_getLast? (h.here rfl))
        · exact .inr now
      records := by
        intro j r at'
        obtain ⟨i, u, among, url, text⟩ := h.records j r at'
        exact ⟨i, u, among, kept.url? url, text⟩ }

end Trail

namespace Session

variable {e : Engine} {clock : Clock} {s t a : Session e.endpoints} {tried : List Nat}

/-- What is kept along a course: the books, what the records tell, and where they were written. -/
structure Chronicle (s : Session e.endpoints) (tried : List Nat) : Prop where
  booked : s.Booked
  story : s.call.Story s.point
  trail : Trail e s.call tried s.point.underWay

/-- A session that asks for a permit has begun its attempt and not recorded it. -/
theorem Asks.chronicle {url : Url} {front : List Event} (asks : Asks s a url front)
    (h : s.Chronicle tried) :
    a.call.Recorded 1 ∧ a.call.IsOpen ∧ Trail e a.call (tried ++ s.begins) 1 := by
  have story := h.story
  have trail := h.trail
  cases asks with
  | anew stands read =>
    rw [stands] at story trail
    obtain ⟨recorded, isOpen⟩ := story
    refine ⟨⟨recorded.numbered, congrArg (· + 1) recorded.attempts⟩, isOpen, ?_⟩
    rw [begins, stands]
    exact trail.attempt
  | again stands =>
    rw [stands] at story trail
    rw [begins, stands, List.append_nil]
    exact ⟨story.1, story.2, trail⟩

/-- What the records tell after the end of an attempt. -/
theorem follow_story {drawn : Nat} {outcome : Outcome} (recorded : s.call.Recorded 0)
    (last : s.call.EndsWith outcome.verdict)
    (isOpen : outcome.verdict.isFinal = false → s.call.IsOpen) :
    (follow e drawn s outcome).1.call.Story (follow e drawn s outcome).1.point := by
  cases outcome with
  | success response => exact .served response recorded last
  | transportFailure cause => exact .retry recorded (isOpen rfl) last (.transport cause) rfl
  | throttled after => exact .retry recorded (isOpen rfl) last .throttled rfl
  | unavailable after => exact ⟨recorded, isOpen rfl, last⟩
  | redirect address => exact ⟨recorded, isOpen rfl, last⟩
  | fatal cause response => exact .failed recorded last (.fatal cause response)

theorem follow_trail {drawn : Nat} {outcome : Outcome} (h : Trail e s.call tried 1) :
    Trail e (follow e drawn s outcome).1.call tried
      (follow e drawn s outcome).1.point.underWay := by
  cases outcome with
  | success response => exact h
  | transportFailure cause => exact h.retry rfl
  | throttled after => exact h.retry rfl
  | unavailable after => exact h
  | redirect address => exact h
  | fatal cause response => exact h

/-- The end of an attempt writes its record, and the call goes on as the record says. -/
theorem settle_chronicle {drawn started : Nat} {url : Url}
    {result : Except TransportError Response} {events : List Event}
    (settled : settle e clock drawn s url started result = (t, events))
    (recorded : s.call.Recorded 1) (isOpen : s.call.IsOpen) (trail : Trail e s.call tried 1) :
    t.call.Story t.point ∧ Trail e t.call tried t.point.underWay := by
  obtain ⟨x, made, rfl, _⟩ := settle_follow settled
  have number : x.record.attempt = s.call.attempts := made ▸ rfl
  have here : x.record.endpoint = s.call.endpoint.text := made ▸ rfl
  exact ⟨follow_story (s := s.told x) (recorded.record number) (isOpen.endsWith here)
      (isOpen.record (r := x.record)),
    follow_trail (s := s.told x) (trail.record recorded here)⟩

/-- Every step keeps the chronicle. -/
theorem Transition.chronicle {events : List Event} (row : Transition e clock s t events)
    (h : s.Chronicle tried) : t.Chronicle (tried ++ s.begins) := by
  have booked := row.booked h.booked
  have story := h.story
  have trail := h.trail
  -- a step that begins no attempt leaves the trail where it is
  have still : s.begins = [] → Trail e t.call tried t.point.underWay →
      Trail e t.call (tried ++ s.begins) t.point.underWay := by
    intro none trail
    rwa [none, List.append_nil]
  cases row with
  | begins stands =>
    rw [stands] at story trail
    exact ⟨booked, story, still (by simp [Session.begins, stands]) trail⟩
  | unreadable stands bad =>
    rw [stands] at story trail
    obtain ⟨recorded, isOpen⟩ := story
    refine ⟨booked, ?_, ?_⟩
    · exact .unread ⟨recorded.numbered, congrArg (· + 1) recorded.attempts⟩ isOpen bad
    · rw [Session.begins, stands]
      exact trail.attempt
  | waits asks answer =>
    obtain ⟨recorded, isOpen, trail⟩ := asks.chronicle h
    exact ⟨booked, ⟨recorded, isOpen⟩, trail⟩
  | refused asks answer retried =>
    obtain ⟨recorded, isOpen, trail⟩ := asks.chronicle h
    refine ⟨booked, ?_, (trail.record recorded rfl).retry retried⟩
    exact .retry (recorded.record rfl) (isOpen.record rfl) (isOpen.endsWith rfl) (.capacity _)
      retried
  | sends asks answer built =>
    obtain ⟨recorded, isOpen, trail⟩ := asks.chronicle h
    exact ⟨booked, ⟨recorded, isOpen⟩, trail⟩
  | @unsendable a _ _ _ _ _ c _ _ asks answer bad settled =>
    obtain ⟨recorded, isOpen, trail⟩ := asks.chronicle h
    obtain ⟨story, trail⟩ := settle_chronicle (s := a.withLimiter c) settled recorded isOpen trail
    exact ⟨booked, story, trail⟩
  | hears stands settled =>
    rw [stands] at story trail
    obtain ⟨story, trail⟩ := settle_chronicle settled story.1 story.2 trail
    exact ⟨booked, story, still (by simp [Session.begins, stands]) trail⟩
  | relocates stands moved =>
    rw [stands] at story trail
    obtain ⟨recorded, isOpen, _⟩ := story
    refine ⟨booked, ⟨⟨recorded.numbered, recorded.attempts⟩, isOpen⟩, ?_⟩
    exact still (by simp [Session.begins, stands]) (trail.relocate moved)
  | stranded stands stuck =>
    rw [stands] at story trail
    obtain ⟨recorded, _, last⟩ := story
    refine ⟨booked, ?_, still (by simp [Session.begins, stands]) trail⟩
    rcases Selector.relocate_error stuck with ⟨rfl, full⟩ | ⟨rfl, rfl, room, none⟩
    · exact .failed recorded last (.relocations _ full)
    · exact .failed recorded last (.endpoints room none)
  | backsOff stands =>
    rw [stands] at story trail
    exact ⟨booked, story, still (by simp [Session.begins, stands]) trail⟩
  | resumes stands due =>
    rw [stands] at story trail
    exact ⟨booked, story, still (by simp [Session.begins, stands]) trail⟩
  | succeeds stands =>
    rw [stands] at story trail
    refine ⟨booked, ⟨_, rfl, story⟩, still (by simp [Session.begins, stands]) trail⟩
  | fails stands =>
    rw [stands] at story trail
    refine ⟨booked, ⟨_, rfl, story⟩, still (by simp [Session.begins, stands]) trail⟩

/-- At the end of a call its records account for its result. -/
theorem Chronicle.ended {result : CallResult} (h : s.Chronicle tried)
    (stands : s.point = .finished result) :
    ∃ ending, result = s.call.result ending ∧ s.call.Ended ending := by
  have story := h.story
  rwa [stands] at story

theorem start_chronicle (e : Engine) (clock : Clock) (shared : Shared e.endpoints)
    (o : CallOptions) : (start e clock shared o).1.Chronicle [] where
  booked := start_booked e clock shared o
  story := ⟨⟨rfl, rfl⟩, nofun⟩
  trail :=
    { set := rfl
      standing := Selector.startingAt_isStanding ..
      attempts := rfl
      here := nofun
      visited := fun _ been => .inr (Selector.startingAt_isVisited.mp been)
      records := nofun }

theorem Course.chronicle {first : Session e.endpoints} {log : List (Nat × Event)}
    (course : Course e first t tried log) (begun : first.Chronicle []) : t.Chronicle tried := by
  refine course.induction (Q := fun s tried _ => s.Chronicle tried) begun ?_ ?_
  · exact fun _ h => ⟨h.booked.shared _, h.story, h.trail⟩
  · exact fun row h => row.chronicle h

/-- The result of a call tells its true story. Its records are numbered from one, one for each
attempt but for a last one without a URL to ask, and only the last one may be a success or fatal.
The call succeeds exactly if the last record is a success; if it fails, it fails as the last record
says, at the endpoint of the last record. It says that no endpoint is left only if every endpoint of
the set was tried, with a record of that attempt, and a relocation was left. -/
theorem result_tells_story {shared : Shared e.endpoints} {o : CallOptions} {result : CallResult}
    {log : List (Nat × Event)} (course : Course e (start e clock shared o).1 t tried log)
    (ended : t.point = .finished result) :
    result.attempts = tried.length ∧
    result.history.map (·.attempt) = List.range' 1 result.history.length ∧
    (∀ r ∈ result.history.dropLast, r.verdict.isFinal = false) ∧
    (result.isOk ↔ ∃ last, result.history.getLast? = some last ∧ last.verdict = .success) ∧
    (result.history.length = result.attempts ∧
        (∃ last, result.history.getLast? = some last ∧ last.endpoint = result.endpoint.text ∧
          ∀ failure, result.failure? = some failure → last.verdict ∈ failure.verdicts) ∨
      result.history.length + 1 = result.attempts ∧
        ∃ error, Url.parse (target result.endpoint t.call.path) = .error error ∧
          result.failure? = some (.fatal (.invalidRequest error.message) none)) ∧
    (result.failure? = some .endpoints →
      t.call.relocations < e.maxRelocations ∧
      ∀ (i : Nat) (u : Url), e.endpoints.urls[i]? = some u →
        ∃ (j : Nat) (r : AttemptRecord), tried[j]? = some i ∧ result.history[j]? = some r ∧
          r.endpoint = u.text) := by
  have chronicle := course.chronicle (start_chronicle e clock shared o)
  have trail := chronicle.trail
  rw [ended] at trail
  obtain ⟨ending, rfl, how⟩ := chronicle.ended ended
  have records := how.records
  simp only [Call.history_result, Call.attempts_result, Call.endpoint_result]
  refine ⟨trail.attempts.symm, records.1, records.2.1, records.2.2.1, records.2.2.2, ?_⟩
  intro failure
  cases how with
  | served => cases failure
  | unread => cases failure
  | failed recorded last owes =>
    cases failure
    cases owes with
    | endpoints room none =>
      rw [chronicle.booked.books.limit] at room
      refine ⟨room, fun i u at' => ?_⟩
      -- the walk has been there, so that an attempt was made there, and every attempt has a record
      obtain ⟨inside, _⟩ := List.getElem?_eq_some_iff.mp at'
      have been := Selector.next?_eq_none_iff.mp none i (by rw [trail.set]; exact inside)
      have among : i ∈ tried := by
        rcases trail.visited i been with among | current
        · exact among
        · exact current ▸ List.mem_of_getLast? (trail.here rfl)
      obtain ⟨j, bound, there⟩ := List.mem_iff_getElem.mp among
      have written : j < t.call.history.length := by
        have := recorded.attempts
        have := trail.attempts
        omega
      obtain ⟨i', u', there', url, text⟩ := trail.records j _ (List.getElem?_eq_getElem written)
      rw [List.getElem?_eq_getElem bound, there, Option.some.injEq] at there'
      subst there'
      rw [Selector.url?, trail.set, List.getElem?_append_left inside, at', Option.some.injEq] at url
      exact ⟨j, _, by rw [List.getElem?_eq_getElem bound, there],
        List.getElem?_eq_getElem written, url ▸ text⟩

/-- An engine with two endpoints, which may move a call as often as it likes. -/
def couple : Engine :=
  { service := "orders"
    endpoints := ⟨[⟨"http".toList, some ⟨[], none, .domain "a".toList, none⟩, .rooted [[]], none,
      none⟩, ⟨"http".toList, some ⟨[], none, .domain "b".toList, none⟩, .rooted [[]], none, none⟩],
      by simp⟩
    backoff := .never
    maxRelocations := 5
    attemptTimeout := .ofMillis 1000
    maxRetryAfter := .ofMillis 1000
    limiter := { enabled := false }
    observer := .silent }

/-- A call that both endpoints turn away, before its first step. -/
def turnedAway : Travel couple.endpoints :=
  let away : Reply := ⟨some (.ok ⟨⟨503⟩, [], []⟩), 0⟩
  ⟨(start couple ⟨0, 0⟩ couple.fresh ⟨.of "GET" "/", none, .empty⟩).1, none,
    [("a", [away]), ("b", [away])], []⟩

/-- A call that both endpoints turn away fails because none is left, and has tried both. -/
theorem result_tells_story_turnedAway :
    ∃ t tried log result, Course couple turnedAway.session t tried log ∧
      t.point = .finished result ∧ result.failure? = some .endpoints ∧
      ∀ (i : Nat) (u : Url), couple.endpoints.urls[i]? = some u →
        ∃ r ∈ result.history, r.endpoint = u.text := by
  obtain ⟨tried, log, course⟩ := Travel.run_course couple ⟨0, 0⟩ turnedAway
  have fails : (Travel.run couple ⟨0, 0⟩ turnedAway).session.point.result?.bind (·.failure?) =
      some .endpoints := by decide +kernel
  obtain ⟨result, ended, failure⟩ := Option.bind_eq_some_iff.mp fails
  have stands := Point.result?_eq_some_iff.mp ended
  obtain ⟨_, all⟩ := (result_tells_story course stands).2.2.2.2.2 failure
  refine ⟨_, tried, log, result, course, stands, failure, fun i u at' => ?_⟩
  obtain ⟨j, r, _, there, text⟩ := all i u at'
  exact ⟨r, List.mem_of_getElem? there, text⟩

end Session
end Failover
