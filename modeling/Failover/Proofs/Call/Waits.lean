import Failover.Proofs.Call.Encounter
import Failover.Proofs.Call.Reports

/-!
# The waits of a call

After an attempt that may be repeated a call waits before the next one. How long is settled by the
attempt alone and by the retries used so far: the policy gives a wait for each retry, a server that
sheds load may ask for another one, and a call that moves waits only as it is asked to. What servers
ask for is cut at the engine's ceiling, so that all the waits of a call together stay below a bound
that no server can move.
-/

namespace Failover

/-! ## The law -/

/-- The wait that is had where a server may ask for one: the lesser of what it asks for and the
ceiling, or the call's own if it asks for none. -/
def Engine.granted (e : Engine) (asked : Option Span) (own : Span) : Span :=
  match asked with
  | some asked => ⟨min asked.nanos e.maxRetryAfter.nanos⟩
  | none => own

/-- The wait that a server asks for: a usable one of an answer that sheds load or turns callers
away. -/
def Exchange.requested? (x : Exchange) : Option Span :=
  match x.result with
  | .ok r =>
    if r.status.isThrottled || r.status.isUnavailable then RetryAfter.read? x.ended r.headers
    else none
  | .error _ => none

namespace Account

def requested? : Account → Option Span
  | .served x _ => x.requested?
  | .refused _ _ _ _ => none

/-- The wait after an attempt, when so many retries were used before it and the policy allows one
more, or the call can be moved. -/
def wait? (e : Engine) (drawn slot : Nat) (r : Account) : Option Span :=
  match r.record.verdict with
  | .transportFailure | .admissionRefused => e.backoff.delay? drawn slot
  | .throttled => (e.backoff.delay? drawn slot).map (e.granted r.requested?)
  | .unavailable => some (e.granted r.requested? Span.zero)
  | .redirect => some Span.zero
  | .success | .fatal => none

/-- The retries that attempts with these accounts ask for. -/
def retries (accounts : List Account) : Nat := accounts.countP (·.record.verdict.isRetryable)

end Account

namespace Session

variable {e : Engine} {s t a : Session e.endpoints}

/-- The wait that a call enters with its next step, if it enters one. -/
def pause? (e : Engine) (s : Session e.endpoints) : Option Span :=
  match s.point with
  | .entering (.backingOff delay) => some delay
  | .entering (.relocating aim delay) =>
    match s.call.selector.relocate aim with
    | .ok _ => some (e.granted delay Span.zero)
    | .error _ => none
  | _ => none

/-- The account of an attempt that ends when it asks for its permit: it is refused one, or there is
no request to send. -/
def answered (clock : Clock) (s : Session e.endpoints) (url : Url) : List Account :=
  match (s.limiter clock).acquire.1 with
  | .granted =>
    match s.call.request.sentTo url with
    | .ok _ => []
    | .error error =>
      [.served (s.exchange clock url clock.elapsed (.error error)) (s.limiter clock).name]
  | .waiting _ => []
  | .refused error => [.refused s.call.attempts s.call.endpoint error clock.elapsed]

/-- The account of the attempt that ends with the next step of a call, if one does. -/
def ended (s : Session e.endpoints) (x : Encounter) : List Account :=
  match s.point with
  | .entering .attempting =>
    match Url.parse (target s.call.endpoint s.call.path) with
    | .ok url => answered x.clock { s with call := s.call.tried } url
    | .error _ => []
  | .waiting url _ => answered x.clock s url
  | .exchanging url started _ =>
    [.served (s.exchange x.clock url started x.result) (s.limiter x.clock).name]
  | _ => []

/-- What a call can come to from `first`, with the attempts that have ended and the waits entered on
the way. Others may change what is shared before each step. -/
inductive Paced (e : Engine) (first : Session e.endpoints) :
    Session e.endpoints → List Account → List Span → Prop
  | starts : Paced e first first [] []
  | goes {s : Session e.endpoints} {accounts : List Account} {waits : List Span}
      (run : Paced e first s accounts waits) (shared : Shared e.endpoints) (x : Encounter) :
      Paced e first (meet e { s with shared } x).1 (accounts ++ ended { s with shared } x)
        (waits ++ (pause? e s).toList)

/-- Every course of a call has its waits. -/
theorem Course.exists_paced {first : Session e.endpoints} {tried : List Nat}
    {log : List (Nat × Event)} (course : Course e first t tried log) :
    ∃ accounts waits, Paced e first t accounts waits := by
  induction course with
  | starts => exact ⟨_, _, .starts⟩
  | goes _ shared step ih =>
    obtain ⟨accounts, waits, run⟩ := ih
    obtain ⟨x, _, met⟩ := step.exists_meet
    have next := run.goes shared x
    rw [met] at next
    exact ⟨_, _, next⟩

end Session

/-! ## After an attempt -/

/-- The wait that comes with an outcome. -/
def Outcome.after : Outcome → Option Span
  | .throttled after | .unavailable after => after
  | _ => none

/-- The engine cuts what a server asks for, and adds nothing to it. -/
theorem Engine.getD_bounded (e : Engine) (asked : Option Span) (own : Span) :
    (asked.map e.bounded).getD own = e.granted asked own := by
  cases asked with
  | none => rfl
  | some asked => exact congrArg Span.mk (Span.nanos_least asked e.maxRetryAfter)

theorem Engine.nanos_granted_le (e : Engine) (asked : Option Span) (own : Span) :
    (e.granted asked own).nanos ≤ max own.nanos e.maxRetryAfter.nanos := by
  cases asked with
  | none => exact Nat.le_max_left ..
  | some asked => exact (Nat.min_le_right ..).trans (Nat.le_max_right ..)

/-- An attempt asks for the wait that comes with its outcome. -/
theorem Exchange.requested?_eq (x : Exchange) : x.requested? = x.outcome.after := by
  rw [requested?, outcome]
  cases x.result with
  | error error => cases error <;> rfl
  | ok r =>
    show _ = (Outcome.ofResponse x.ended x.url r).after
    by_cases success : r.status.isSuccess = true
    · have inside : 200 ≤ r.status.code ∧ r.status.code < 300 := by
        simpa [Status.isSuccess] using success
      have served : Outcome.ofResponse x.ended x.url r = .success r := if_pos success
      rw [served]
      refine if_neg ?_
      simp only [Status.isThrottled, Status.isUnavailable, Bool.or_eq_true, beq_iff_eq]
      omega
    · rw [Outcome.ofResponse, if_neg success]
      by_cases throttled : r.status.isThrottled = true
      · rw [if_pos throttled]
        exact if_pos (by rw [throttled, Bool.true_or])
      · rw [if_neg throttled]
        by_cases unavailable : r.status.isUnavailable = true
        · rw [if_pos unavailable]
          exact if_pos (by rw [unavailable, Bool.or_true])
        · rw [if_neg unavailable]
          refine (if_neg (by simp [throttled, unavailable])).trans ?_
          repeat' split
          all_goals rfl

/-- An attempt that asks for a wait has the lesser of that and the ceiling, if it has one. -/
theorem Account.nanos_wait?_of_requested {e : Engine} {r : Account} {drawn slot : Nat}
    {asked wait : Span} (requested : r.requested? = some asked)
    (law : r.wait? e drawn slot = some wait) :
    wait.nanos = min asked.nanos e.maxRetryAfter.nanos := by
  cases r with
  | refused attempt endpoint error moment => cases requested
  | served x limiter =>
    have after : x.outcome.after = some asked := x.requested?_eq.symm.trans requested
    have verdict : (served x limiter).record.verdict = x.outcome.verdict := rfl
    rw [wait?, verdict] at law
    cases outcome : x.outcome with
    | throttled after' =>
      rw [outcome] at law
      obtain ⟨own, _, granted⟩ := Option.map_eq_some_iff.mp law
      rw [← granted, requested]
      rfl
    | unavailable after' =>
      rw [outcome] at law
      obtain rfl := Option.some.inj law
      rw [requested]
      rfl
    | _ =>
      rw [outcome] at after
      cases after

namespace Session

variable {e : Engine} {s t a : Session e.endpoints} {accounts before : List Account}
  {r : Account} {waits : List Span} {clock : Clock} {url : Url} {front : List Event}

/-- The last attempt asks for this wait, and those before it have had theirs. -/
def Owing (e : Engine) (wait : Span) (accounts : List Account) (waits : List Span) : Prop :=
  ∃ before r drawn, accounts = before ++ [r] ∧ waits.length = before.length ∧
    Account.wait? e drawn (Account.retries before) r = some wait

/-- What is ahead at a point: the wait that the last attempt asks for, or another attempt after as
many waits as attempts, or the end. -/
def Ahead (e : Engine) (p : Point) (accounts : List Account) (waits : List Span) : Prop :=
  match p with
  | .entering (.backingOff delay) => Owing e delay accounts waits
  | .entering (.relocating _ delay) => Owing e (e.granted delay Span.zero) accounts waits
  | .entering (.succeeded _) | .entering (.failed _) | .finished _ =>
    waits.length ≤ accounts.length
  | _ => waits.length = accounts.length

/-- The waits are those that the attempts ask for, one after another. -/
def AsDue (e : Engine) (accounts : List Account) (waits : List Span) : Prop :=
  ∀ (k : Nat) (wait : Span), waits[k]? = some wait → ∃ r drawn, accounts[k]? = some r ∧
    Account.wait? e drawn (Account.retries (accounts.take k)) r = some wait

/-- A call with the waits that its attempts have had. -/
structure Waited (s : Session e.endpoints) (accounts : List Account) (waits : List Span) :
    Prop where
  booked : s.Booked
  history : s.call.history = accounts.map Account.record
  due : AsDue e accounts waits
  ahead : Ahead e s.point accounts waits

/-- What follows an attempt is ahead of the call. -/
theorem follow_ahead (drawn : Nat) (x : Exchange) (limiter : String)
    (even : waits.length = before.length) (policy : s.call.cursor.policy = e.backoff)
    (used : s.call.retries = Account.retries before) :
    Ahead e (follow e drawn s x.outcome).1.point (before ++ [.served x limiter]) waits := by
  let r : Account := .served x limiter
  have short : waits.length ≤ (before ++ [r]).length := by
    rw [List.length_append, even]
    omega
  have retried : ∀ after exhausted, (∀ own, e.backoff.delay? drawn s.call.retries = some own →
      Account.wait? e drawn s.call.retries r = some (e.granted after own)) →
      Ahead e (s.toward (s.call.retry e drawn after exhausted).1
        (s.call.retry e drawn after exhausted).2.1).point (before ++ [r]) waits := by
    intro after exhausted law
    rcases h : s.call.retry e drawn after exhausted with ⟨call, phase, events⟩
    rcases Call.retry_pause h with ⟨_, rfl⟩ | ⟨own, given, _, rfl⟩
    · exact short
    · rw [policy] at given
      show Owing e _ (before ++ [r]) waits
      rw [e.getD_bounded]
      exact ⟨before, r, drawn, rfl, even, used ▸ law own given⟩
  have verdict : r.record.verdict = x.outcome.verdict := rfl
  cases outcome : x.outcome with
  | success response => exact short
  | fatal cause response => exact short
  | transportFailure cause =>
    refine retried none (.transport cause) fun own given => ?_
    rw [Account.wait?, verdict, outcome]
    exact given
  | throttled after =>
    refine retried after .throttled fun own given => ?_
    have asked : r.requested? = after := x.requested?_eq.trans (congrArg (·.after) outcome)
    rw [Account.wait?, verdict, outcome]
    show (e.backoff.delay? drawn s.call.retries).map _ = _
    rw [given, asked]
    rfl
  | unavailable after =>
    have asked : r.requested? = after := x.requested?_eq.trans (congrArg (·.after) outcome)
    refine ⟨before, r, drawn, rfl, even, ?_⟩
    rw [Account.wait?, verdict, outcome]
    show some (e.granted r.requested? Span.zero) = _
    rw [asked]
  | redirect address =>
    refine ⟨before, r, drawn, rfl, even, ?_⟩
    rw [Account.wait?, verdict, outcome]
    rfl

/-- The waits so far stay those of their attempts when one more attempt ends. -/
theorem AsDue.append (due : AsDue e accounts waits) (new : List Account) :
    AsDue e (accounts ++ new) waits := by
  intro k wait at'
  obtain ⟨r, drawn, there, law⟩ := due k wait at'
  obtain ⟨inside, _⟩ := List.getElem?_eq_some_iff.mp there
  refine ⟨r, drawn, ?_, ?_⟩
  · rw [List.getElem?_append_left inside, there]
  · rw [List.take_append_of_le_length inside.le]
    exact law

/-- A wait that is owing is that of the last attempt when it is entered. -/
theorem AsDue.concat (due : AsDue e accounts waits) {wait : Span}
    (owing : Owing e wait accounts waits) :
    (waits ++ [wait]).length = accounts.length ∧ AsDue e accounts (waits ++ [wait]) := by
  obtain ⟨before, r, drawn, rfl, even, law⟩ := owing
  refine ⟨by simp [even], ?_⟩
  intro k other at'
  by_cases old : k < waits.length
  · rw [List.getElem?_append_left old] at at'
    exact due k other at'
  · rw [List.getElem?_append_right (by omega), List.getElem?_singleton] at at'
    split at at'
    · cases at'
      have last : k = before.length := by omega
      subst last
      refine ⟨r, drawn, List.getElem?_concat_length, ?_⟩
      rw [List.take_left]
      exact law
    · cases at'

/-- The retries that a call has used are those that its attempts so far asked for. -/
theorem retries_eq (books : Books e a.call 1 0 0)
    (history : a.call.history = accounts.map Account.record) :
    a.call.retries = Account.retries accounts := by
  have counted := books.retryable
  rw [history, List.countP_map] at counted
  exact counted.symm

/-- After an attempt that had its permit the call is as far as the attempt says. -/
theorem settle_waited {drawn started : Nat} {result : Except TransportError Response}
    {events : List Event} (h : Waited s accounts waits)
    (books : Books e a.call 1 0 0) (history : a.call.history = accounts.map Account.record)
    (even : waits.length = accounts.length) (limiter : String)
    (settled : settle e clock drawn a url started result = (t, events)) :
    Waited t (accounts ++ [.served (a.exchange clock url started result) limiter]) waits where
  booked := .settle books settled
  history := by
    rw [settle_history settled, history, List.map_append]
    rfl
  due := h.due.append _
  ahead := by
    have used := retries_eq books history
    obtain ⟨x, rfl, rfl, _⟩ := settle_follow settled
    exact follow_ahead (s := a.told _) drawn _ limiter even books.policy used

/-- A call that asks for a permit enters no wait. -/
theorem Asks.unpaused (asks : Asks s a url front) : pause? e s = none := by
  cases asks with
  | anew stands read => rw [pause?, stands]
  | again stands => rw [pause?, stands]

/-- A call that asks for a permit has had a wait after every attempt. -/
theorem Asks.even (asks : Asks s a url front) (h : Waited s accounts waits) :
    waits.length = accounts.length := by
  have ahead := h.ahead
  cases asks with
  | anew stands read =>
    rw [stands] at ahead
    exact ahead
  | again stands =>
    rw [stands] at ahead
    exact ahead

/-- A call that has asked for a permit is as far as the answer says. -/
theorem Asks.waited (asks : Asks s a url front) (h : Waited s accounts waits) (drawn : Nat) :
    Waited (seekPermit e clock drawn a url).1 (accounts ++ answered clock a url) waits := by
  have even := asks.even h
  have books := asks.books h.booked
  have row : Transition e clock s _ _ := asks.transition drawn
  have booked := row.booked h.booked
  have history : a.call.history = accounts.map Account.record := asks.history.trans h.history
  rcases answer : (a.limiter clock).acquire with ⟨granted | error | signals, c, events⟩
  · cases built : a.call.request.sentTo url with
    | ok request =>
      have none : answered clock a url = [] := by simp only [answered, answer, built]
      have sent : (a.withLimiter c).call.request.sentTo url = .ok request := built
      rw [none, List.append_nil]
      refine ⟨booked, ?_, h.due, ?_⟩
      · simp only [seekPermit, answer, send, sent]
        exact history
      · simp only [seekPermit, answer, send, sent]
        exact even
    | error error =>
      have one : answered clock a url =
          [.served (a.exchange clock url clock.elapsed (.error error)) (a.limiter clock).name] := by
        simp only [answered, answer, built]
      have unsent : (a.withLimiter c).call.request.sentTo url = .error error := built
      rw [one]
      simp only [seekPermit, answer, send, unsent]
      exact settle_waited (a := a.withLimiter c) h books history even _ rfl
  · have one : answered clock a url =
        [.refused a.call.attempts a.call.endpoint error clock.elapsed] := by
      simp only [answered, answer]
    rcases retried : (a.call.record a.call.refusal).retry e drawn none (.capacity error) with
      ⟨call, phase, more⟩
    have met : (seekPermit e clock drawn a url).1 = (a.withLimiter c).toward call phase := by
      simp only [Call.refusal] at retried
      simp only [seekPermit, answer, retried]
    have kept : call.history = a.call.history ++ [a.call.refusal] :=
      congrArg (·.history) (Call.eq_of_retry retried)
    rw [met] at booked ⊢
    rw [one]
    refine ⟨booked, ?_, h.due.append _, ?_⟩
    · show call.history = _
      rw [kept, history, List.map_append]
      rfl
    · rcases Call.retry_pause retried with ⟨_, rfl⟩ | ⟨own, given, _, rfl⟩
      · show waits.length ≤ (accounts ++ [_]).length
        rw [List.length_append]
        omega
      · have used := retries_eq books history
        have law : e.backoff.delay? drawn a.call.retries = some own := books.policy ▸ given
        rw [used] at law
        exact ⟨accounts, _, drawn, rfl, even, law⟩
  · have none : answered clock a url = [] := by simp only [answered, answer]
    rw [none, List.append_nil]
    refine ⟨booked, ?_, h.due, ?_⟩
    · simp only [seekPermit, answer]
      exact history
    · simp only [seekPermit, answer]
      exact even

theorem Asks.ended (asks : Asks s a url front) (x : Encounter) :
    s.ended x = answered x.clock a url := by
  cases asks with
  | anew stands read => simp only [Session.ended, stands, read]
  | again stands => simp only [Session.ended, stands]

theorem meet_booked (booked : s.Booked) (x : Encounter) : (meet e s x).1.Booked := by
  rcases meet_step s x with ⟨_, same⟩ | step
  · rw [same]
    exact booked
  · exact step.transition.booked booked

/-- A call that meets something enters the wait that is ahead, if one is. -/
theorem Waited.meet (h : Waited s accounts waits) (x : Encounter) :
    Waited (meet e s x).1 (accounts ++ s.ended x) (waits ++ (pause? e s).toList) := by
  have booked := meet_booked h.booked x
  have ahead := h.ahead
  -- but for attempts and pauses a step moves the call from one phase to the next
  have quiet : s.ended x = [] → pause? e s = none →
      (Session.meet e s x).1.call.history = s.call.history →
      Ahead e (Session.meet e s x).1.point accounts waits →
      Waited (Session.meet e s x).1 (accounts ++ s.ended x) (waits ++ (pause? e s).toList) := by
    intro unended unpaused history ahead
    rw [unended, unpaused, List.append_nil, Option.toList_none, List.append_nil]
    exact ⟨booked, history.trans h.history, h.due, ahead⟩
  have asked : ∀ {a url front}, Asks s a url front →
      Waited (Session.meet e s x).1 (accounts ++ s.ended x) (waits ++ (pause? e s).toList) := by
    intro a url front asks
    rw [meet_asks asks, asks.ended, asks.unpaused, Option.toList_none, List.append_nil]
    exact asks.waited h x.drawn
  cases stands : s.point with
  | waiting url signals => exact asked (.again stands)
  | exchanging url started request =>
    rw [stands] at ahead
    have books := h.booked.books
    rw [stands] at books
    have now : Session.meet e s x = settle e x.clock x.drawn s url started x.result := by
      simp only [Session.meet, stands]
    have one : s.ended x =
        [.served (s.exchange x.clock url started x.result) (s.limiter x.clock).name] := by
      simp only [Session.ended, stands]
    have unpaused : pause? e s = none := by rw [pause?, stands]
    rw [one, unpaused, Option.toList_none, List.append_nil, now]
    exact settle_waited h books h.history ahead _ rfl
  | pausing moment =>
    rw [stands] at ahead
    refine quiet (by rw [Session.ended, stands]) (by rw [pause?, stands]) ?_ ?_
    · simp only [Session.meet, stands]
      split <;> rfl
    · simp only [Session.meet, stands]
      split
      · exact ahead
      · exact stands ▸ ahead
  | finished result =>
    have same : Session.meet e s x = (s, []) := by simp only [Session.meet, stands]
    refine quiet (by rw [Session.ended, stands]) (by rw [pause?, stands]) ?_ ?_
    · rw [same]
    · rw [same]
      exact h.ahead
  | entering phase =>
    rw [stands] at ahead
    have enters : Session.meet e s x = enter e x.clock x.drawn s phase := by
      simp only [Session.meet, stands]
    -- a pause that begins is the one that was owing
    have pauses : ∀ wait moment, s.ended x = [] → pause? e s = some wait →
        Owing e wait accounts waits →
        (Session.meet e s x).1.call.history = s.call.history →
        (Session.meet e s x).1.point = .pausing moment →
        Waited (Session.meet e s x).1 (accounts ++ s.ended x) (waits ++ (pause? e s).toList) := by
      intro wait moment unended pause owing history point
      obtain ⟨even, due⟩ := h.due.concat owing
      rw [unended, pause, List.append_nil, Option.toList_some]
      exact ⟨booked, history.trans h.history, due, point ▸ even⟩
    cases phase with
    | init =>
      refine quiet (by rw [Session.ended, stands]) (by rw [pause?, stands]) ?_ ?_
      · rw [enters]
        rfl
      · rw [enters]
        exact ahead
    | attempting =>
      cases read : Url.parse (target s.call.endpoint s.call.path) with
      | ok url => exact asked (.anew stands read)
      | error error =>
        refine quiet (by simp only [Session.ended, stands, read]) (by rw [pause?, stands]) ?_ ?_
        · simp only [enters, enter, attempt_of_error read]
          rfl
        · simp only [enters, enter, attempt_of_error read]
          exact Nat.le_of_eq ahead
    | relocating aim delay =>
      cases moved : s.call.selector.relocate aim with
      | ok moved' =>
        obtain ⟨selection, selector⟩ := moved'
        refine pauses _ (x.clock.due (e.granted delay Span.zero))
          (by rw [Session.ended, stands]) (by simp only [pause?, stands, moved]) ahead ?_ ?_
        · simp only [enters, enter, relocate, moved]
        · simp only [enters, enter, relocate, moved, e.getD_bounded]
      | error error =>
        refine quiet (by rw [Session.ended, stands]) (by simp only [pause?, stands, moved]) ?_ ?_
        · cases error <;> simp only [enters, enter, relocate, moved] <;> rfl
        · obtain ⟨before, r, _, rfl, even, _⟩ := ahead
          have short : waits.length ≤ (before ++ [r]).length := by simp [even]
          cases error <;> simp only [enters, enter, relocate, moved] <;> exact short
    | backingOff delay =>
      refine pauses delay (x.clock.due delay) (by rw [Session.ended, stands])
        (by rw [pause?, stands]) ahead ?_ ?_
      · rw [enters]
        rfl
      · rw [enters]
        rfl
    | succeeded response =>
      refine quiet (by rw [Session.ended, stands]) (by rw [pause?, stands]) ?_ ?_
      · rw [enters]
        rfl
      · rw [enters]
        exact ahead
    | failed failure =>
      refine quiet (by rw [Session.ended, stands]) (by rw [pause?, stands]) ?_ ?_
      · rw [enters]
        rfl
      · rw [enters]
        exact ahead

theorem Paced.waited {shared : Shared e.endpoints} {o : CallOptions}
    (run : Paced e (start e clock shared o).1 t accounts waits) : Waited t accounts waits := by
  induction run with
  | starts => exact ⟨start_booked e clock shared o, rfl, nofun, rfl⟩
  | @goes s _ _ _ change x ih =>
    have still : Waited { s with shared := change } _ _ :=
      ⟨ih.booked.shared change, ih.history, ih.due, ih.ahead⟩
    exact still.meet x

/-! ## The sum of the waits -/

end Session

/-- The wait that a call at this point is about to enter after a retry was paid for it. -/
def Point.owed : Point → List Span
  | .entering (.backingOff delay) => [delay]
  | _ => []

namespace Session

variable {e : Engine} {s t a : Session e.endpoints} {clock : Clock} {url : Url}
  {events front : List Event}

/-- What a step does for the waits: nothing, a retry is paid for a wait, which is entered on the
next step, or a relocation is paid for a wait that is entered at once. -/
inductive Pace (e : Engine) (s t : Session e.endpoints) : Prop
  | goesOn (retries : t.call.retries = s.call.retries)
      (relocations : t.call.relocations = s.call.relocations) (paused : pause? e s = none)
      (owed : s.point.owed = []) (owes : t.point.owed = [])
  | retries {after : Option Span} {own : Span} {drawn slot : Nat}
      (given : e.backoff.delay? drawn slot = some own)
      (retries : t.call.retries = s.call.retries + 1)
      (relocations : t.call.relocations = s.call.relocations) (paused : pause? e s = none)
      (owed : s.point.owed = []) (owes : t.point.owed = [e.granted after own])
  | pauses {delay : Span} (retries : t.call.retries = s.call.retries)
      (relocations : t.call.relocations = s.call.relocations) (paused : pause? e s = some delay)
      (owed : s.point.owed = [delay]) (owes : t.point.owed = [])
  | relocates {after : Option Span} (retries : t.call.retries = s.call.retries)
      (relocations : t.call.relocations = s.call.relocations + 1)
      (paused : pause? e s = some (e.granted after Span.zero))
      (owed : s.point.owed = []) (owes : t.point.owed = [])

/-- An attempt that may be repeated pays a retry or ends the call. -/
theorem pace_retry {c call : Call} {drawn : Nat} {after : Option Span} {exhausted : CallFailure}
    {phase : Phase} {more : List Event}
    (retried : c.retry e drawn after exhausted = (call, phase, more))
    (policy : c.cursor.policy = e.backoff) (retries : c.retries = s.call.retries)
    (relocations : c.relocations = s.call.relocations) (paused : pause? e s = none)
    (owed : s.point.owed = []) : Pace e s (t.toward call phase) := by
  rcases Call.retry_pause retried with ⟨rfl, rfl⟩ | ⟨own, given, rfl, rfl⟩
  · exact .goesOn retries relocations paused owed rfl
  · have owes := congrArg (fun wait => [wait]) (e.getD_bounded after own)
    exact .retries (policy ▸ given) (congrArg (· + 1) retries) relocations paused owed owes

/-- After an attempt that had its permit. -/
theorem pace_settle {drawn started : Nat} {result : Except TransportError Response}
    (policy : a.call.cursor.policy = e.backoff) (retries : a.call.retries = s.call.retries)
    (relocations : a.call.relocations = s.call.relocations) (paused : pause? e s = none)
    (owed : s.point.owed = [])
    (settled : settle e clock drawn a url started result = (t, events)) : Pace e s t := by
  obtain ⟨x, _, rfl, _⟩ := settle_follow settled
  cases x.outcome with
  | transportFailure cause => exact pace_retry rfl policy retries relocations paused owed
  | throttled after => exact pace_retry rfl policy retries relocations paused owed
  | _ => exact .goesOn retries relocations paused owed rfl

/-- A session that asks for a permit has paid for nothing yet. -/
theorem Asks.unpaid (asks : Asks s a url front) :
    a.call.retries = s.call.retries ∧ a.call.relocations = s.call.relocations ∧
      pause? e s = none ∧ s.point.owed = [] := by
  have unpaused := asks.unpaused
  cases asks with
  | anew stands read => exact ⟨rfl, rfl, unpaused, by rw [stands]; rfl⟩
  | again stands => exact ⟨rfl, rfl, unpaused, by rw [stands]; rfl⟩

theorem Transition.pace (row : Transition e clock s t events) (booked : s.Booked) :
    Pace e s t := by
  cases row with
  | waits asks answer =>
    obtain ⟨retries, relocations, paused, owed⟩ := asks.unpaid
    exact .goesOn retries relocations paused owed rfl
  | sends asks answer built =>
    obtain ⟨retries, relocations, paused, owed⟩ := asks.unpaid
    exact .goesOn retries relocations paused owed rfl
  | refused asks answer retried =>
    obtain ⟨retries, relocations, paused, owed⟩ := asks.unpaid
    exact pace_retry retried (asks.books booked).policy retries relocations paused owed
  | @unsendable a _ _ _ _ _ c _ _ asks answer bad settled =>
    obtain ⟨retries, relocations, paused, owed⟩ := asks.unpaid
    exact pace_settle (a := a.withLimiter c) (asks.books booked).policy retries relocations paused
      owed settled
  | hears stands settled =>
    exact pace_settle booked.books.policy rfl rfl (by rw [pause?, stands]) (by rw [stands]; rfl)
      settled
  | @relocates aim delay selection selector stands moved =>
    obtain ⟨_, paid, _⟩ := Selector.relocate_ok moved
    have paused : pause? e s = some (e.granted delay Span.zero) := by
      simp only [pause?, stands, moved]
    exact .relocates rfl paid paused (by rw [stands]; rfl) rfl
  | stranded stands stuck =>
    exact .goesOn rfl rfl (by simp only [pause?, stands, stuck]) (by rw [stands]; rfl) rfl
  | backsOff stands => exact .pauses rfl rfl (by rw [pause?, stands]) (by rw [stands]; rfl) rfl
  | begins stands => exact .goesOn rfl rfl (by rw [pause?, stands]) (by rw [stands]; rfl) rfl
  | unreadable stands bad =>
    exact .goesOn rfl rfl (by rw [pause?, stands]) (by rw [stands]; rfl) rfl
  | resumes stands due => exact .goesOn rfl rfl (by rw [pause?, stands]) (by rw [stands]; rfl) rfl
  | succeeds stands => exact .goesOn rfl rfl (by rw [pause?, stands]) (by rw [stands]; rfl) rfl
  | fails stands => exact .goesOn rfl rfl (by rw [pause?, stands]) (by rw [stands]; rfl) rfl

/-- The nanoseconds of all these spans. -/
def total (spans : List Span) : Nat := (spans.map (·.nanos)).sum

/-- Every wait is paid for by a retry or by a relocation. -/
theorem Pace.count (pace : Pace e s t) :
    (pause? e s).toList.length + t.point.owed.length + (s.call.retries + s.call.relocations) =
      s.point.owed.length + (t.call.retries + t.call.relocations) := by
  cases pace with
  | goesOn retries relocations paused owed owes => simp [*]
  | retries given retries relocations paused owed owes =>
    simp [*]
    omega
  | pauses retries relocations paused owed owes => simp [*]
  | relocates retries relocations paused owed owes =>
    simp [*]
    omega

/-- A wait is no longer than what pays for it allows. -/
theorem Pace.total_le (pace : Pace e s t) {bound : Nat}
    (policy : ∀ drawn slot own, e.backoff.delay? drawn slot = some own → own.nanos ≤ bound) :
    total (pause? e s).toList + total t.point.owed +
        (s.call.retries * max bound e.maxRetryAfter.nanos +
          s.call.relocations * e.maxRetryAfter.nanos) ≤
      total s.point.owed + (t.call.retries * max bound e.maxRetryAfter.nanos +
        t.call.relocations * e.maxRetryAfter.nanos) := by
  cases pace with
  | goesOn retries relocations paused owed owes => simp [*, total]
  | @retries after own _ _ given retries relocations paused owed owes =>
    have own_le := policy _ _ _ given
    have wait_le := e.nanos_granted_le after own
    rw [retries, relocations, paused, owed, owes, Nat.add_mul]
    simp only [total, Option.toList_none, List.map_nil, List.sum_nil, List.map_cons, List.sum_cons]
    omega
  | pauses retries relocations paused owed owes =>
    simp [*, total]
  | @relocates after retries relocations paused owed owes =>
    have wait_le := e.nanos_granted_le after Span.zero
    rw [retries, relocations, paused, owed, owes, Nat.add_mul]
    simp only [total, Option.toList_some, List.map_nil, List.sum_nil, List.map_cons, List.sum_cons]
    change _ ≤ max 0 _ at wait_le
    omega

/-- A call that stays where it is owes no wait. -/
theorem IsStill.unpaused {x : Encounter} (still : s.IsStill x) :
    pause? e s = none ∧ s.point.owed = [] := by
  rcases still with ⟨result, stands⟩ | ⟨moment, stands, _⟩
  · exact ⟨by rw [pause?, stands], by rw [stands]; rfl⟩
  · exact ⟨by rw [pause?, stands], by rw [stands]; rfl⟩

theorem meet_pace (booked : s.Booked) (x : Encounter) : Pace e s (meet e s x).1 := by
  rcases meet_step s x with ⟨still, same⟩ | step
  · obtain ⟨paused, owed⟩ := IsStill.unpaused (e := e) still
    rw [same]
    exact .goesOn rfl rfl paused owed owed
  · exact step.transition.pace booked

variable {accounts : List Account} {waits : List Span} {shared : Shared e.endpoints}
  {o : CallOptions}

/-- The waits so far are as many as the retries and relocations so far, but for one that is about to
be entered. -/
theorem Paced.count (run : Paced e (start e clock shared o).1 t accounts waits) :
    waits.length + t.point.owed.length = t.call.retries + t.call.relocations := by
  induction run with
  | starts => rfl
  | @goes s _ waits run change x ih =>
    have pace := meet_pace (s := { s with shared := change })
      (run.waited.booked.shared change) x
    have count := pace.count
    rw [List.length_append]
    change (pause? e s).toList.length + _ + (s.call.retries + s.call.relocations) =
      s.point.owed.length + _ at count
    omega

/-- All waits together are no longer than the retries and relocations so far allow. -/
theorem Paced.total_le (run : Paced e (start e clock shared o).1 t accounts waits) {bound : Nat}
    (policy : ∀ drawn slot own, e.backoff.delay? drawn slot = some own → own.nanos ≤ bound) :
    total waits + total t.point.owed ≤
      t.call.retries * max bound e.maxRetryAfter.nanos +
        t.call.relocations * e.maxRetryAfter.nanos := by
  induction run with
  | starts => exact Nat.zero_le _
  | @goes s _ waits run change x ih =>
    have pace := meet_pace (s := { s with shared := change })
      (run.waited.booked.shared change) x
    have longer := pace.total_le policy
    have sum : total (waits ++ (pause? e s).toList) = total waits + total (pause? e s).toList := by
      simp [total]
    change total (pause? e s).toList + _ + (s.call.retries * _ + s.call.relocations * _) ≤
      total s.point.owed + _ at longer
    omega

end Session

/-- No wait of a configured policy is longer than the settings say. -/
theorem Backoff.delay?_le (r : RetrySettings) {drawn slot : Nat} {own : Span}
    (given : (ofSettings r).delay? drawn slot = some own) :
    own.nanos ≤ r.maxDelayMs.toNat * 1000000 := by
  unfold ofSettings at given
  split at given
  · cases given
  · simp only [delay?] at given
    split at given
    · cases given
    · cases given
      have capped : doubled (wordMillis (Span.ofMillis r.baseDelayMs.toNat))
          (wordMillis (Span.ofMillis r.maxDelayMs.toNat)) slot ≤ r.maxDelayMs.toNat := by
        refine (Nat.min_le_right _ _).trans ?_
        rw [wordMillis, Span.millis_ofMillis]
        exact Nat.mod_le _ _
      exact Nat.mul_le_mul_right _ ((Nat.sub_le _ _).trans capped)

namespace Session

variable {e : Engine} {t : Session e.endpoints} {clock : Clock} {accounts : List Account}
  {waits : List Span} {shared : Shared e.endpoints} {o : CallOptions}

/-- A step enters a pause exactly if it enters a wait, and the pause lasts as long. -/
theorem Transition.pausing_iff {s : Session e.endpoints} {events : List Event}
    (row : Transition e clock s t events) (moment : Nat) :
    t.point = .pausing moment ↔ ∃ wait, pause? e s = some wait ∧ moment = clock.due wait := by
  -- a step that enters no wait leads somewhere else
  have other : pause? e s = none → t.point ≠ .pausing moment →
      (t.point = .pausing moment ↔ ∃ wait, pause? e s = some wait ∧ moment = clock.due wait) := by
    intro unpaused elsewhere
    simp [unpaused, elsewhere]
  have enters : pause? e s = none → (∃ phase, t.point = .entering phase) →
      (t.point = .pausing moment ↔ ∃ wait, pause? e s = some wait ∧ moment = clock.due wait) := by
    rintro unpaused ⟨phase, stands⟩
    exact other unpaused (by rw [stands]; exact nofun)
  have pauses : ∀ wait, pause? e s = some wait → t.point = .pausing (clock.due wait) →
      (t.point = .pausing moment ↔ ∃ wait, pause? e s = some wait ∧ moment = clock.due wait) := by
    intro wait paused stands
    simp [paused, stands, eq_comm]
  cases row with
  | begins stands => exact enters (by rw [pause?, stands]) ⟨_, rfl⟩
  | unreadable stands bad => exact enters (by rw [pause?, stands]) ⟨_, rfl⟩
  | waits asks answer => exact other asks.unpaused nofun
  | refused asks answer retried => exact enters asks.unpaused ⟨_, rfl⟩
  | sends asks answer built => exact other asks.unpaused nofun
  | unsendable asks answer bad settled => exact enters asks.unpaused (settle_enters settled)
  | hears stands settled => exact enters (by rw [pause?, stands]) (settle_enters settled)
  | @relocates _ delay _ _ stands moved =>
    have paused : pause? e s = some (e.granted delay Span.zero) := by
      simp only [pause?, stands, moved]
    exact pauses _ paused (by rw [← e.getD_bounded])
  | stranded stands stuck => exact enters (by simp only [pause?, stands, stuck]) ⟨_, rfl⟩
  | backsOff stands => exact pauses _ (by rw [pause?, stands]) rfl
  | resumes stands due => exact enters (by rw [pause?, stands]) ⟨_, rfl⟩
  | succeeds stands => exact other (by rw [pause?, stands]) nofun
  | fails stands => exact other (by rw [pause?, stands]) nofun

/-- Every attempt of a call but the last is followed by the wait that belongs to it, and the last by
none. After an attempt that is made again where it was, the wait is that of the policy for as many
retries as were used before, and what the server asked for instead if it throttled the call with a
usable wait; after one that moved the call it is what the server asked for, if it was one that was
turned away, or else nothing. Of what a server asks for and of the engine's ceiling it is always the
lesser. A call pauses just as long as these waits say; and all of them together are bounded by the
retries and relocations that were made and by the settings alone. -/
theorem waits_follow_attempts (run : Paced e (start e clock shared o).1 t accounts waits) :
    t.call.history = accounts.map Account.record ∧
    (∀ (k : Nat) (wait : Span), waits[k]? = some wait → ∃ r drawn, accounts[k]? = some r ∧
      Account.wait? e drawn (Account.retries (accounts.take k)) r = some wait ∧
      ∀ asked, r.requested? = some asked →
        wait.nanos = min asked.nanos e.maxRetryAfter.nanos) ∧
    (∀ (change : Shared e.endpoints) clock u events,
      Step e clock { t with shared := change } u events → ∀ moment,
        u.point = .pausing moment ↔ ∃ wait, pause? e t = some wait ∧ moment = clock.due wait) ∧
    (∀ result, t.point = .finished result → waits.length + 1 = t.call.attempts) ∧
    ∀ r : RetrySettings, e.backoff = .ofSettings r →
      e.maxRetryAfter = .ofMillis r.maxRetryAfterMs.toNat →
      total waits ≤
        (t.call.retries * max r.maxDelayMs.toNat r.maxRetryAfterMs.toNat +
          t.call.relocations * r.maxRetryAfterMs.toNat) * 1000000 := by
  have waited := run.waited
  refine ⟨waited.history, ?_, ?_, ?_, ?_⟩
  · intro k wait at'
    obtain ⟨r, drawn, there, law⟩ := waited.due k wait at'
    exact ⟨r, drawn, there, law, fun _ asked => Account.nanos_wait?_of_requested asked law⟩
  · intro change clock u events step moment
    exact step.transition.pausing_iff moment
  · intro result ended
    have count := run.count
    have attempts := waited.booked.books.attempts
    rw [ended] at count attempts
    change waits.length + 0 = _ at count
    change _ = _ + 1 at attempts
    omega
  · intro r policy ceiling
    have own_le : ∀ drawn slot own, e.backoff.delay? drawn slot = some own →
        own.nanos ≤ r.maxDelayMs.toNat * 1000000 :=
      fun drawn slot own given => Backoff.delay?_le r (policy ▸ given)
    have bound := run.total_le own_le
    rw [ceiling, Span.nanos_ofMillis, Nat.mul_max_mul_right, ← Nat.mul_assoc, ← Nat.mul_assoc,
      ← Nat.add_mul] at bound
    exact (Nat.le_add_right _ _).trans bound

/-- What a call comes to that meets these things one after another while nothing else happens, with
the attempts that end and the waits that are entered. -/
def passes (e : Engine) : Session e.endpoints → List Encounter →
    Session e.endpoints × List Account × List Span
  | s, [] => (s, [], [])
  | s, x :: rest =>
    let (last, accounts, waits) := passes e (meet e s x).1 rest
    (last, ended s x ++ accounts, (pause? e s).toList ++ waits)

theorem Paced.passes {first s : Session e.endpoints} {accounts : List Account} {waits : List Span}
    (run : Paced e first s accounts waits) (met : List Encounter) :
    Paced e first (Session.passes e s met).1 (accounts ++ (Session.passes e s met).2.1)
      (waits ++ (Session.passes e s met).2.2) := by
  induction met generalizing s accounts waits with
  | nil => simpa [Session.passes] using run
  | cons x rest ih =>
    have next := ih (run.goes s.shared x)
    simpa [Session.passes, List.append_assoc] using next

/-- The engine of `couple` with a policy from settings. -/
def patient : Engine :=
  { couple with
    backoff := .ofSettings { jitter := false }
    maxRetryAfter := .ofMillis 30000 }

/-- What a call meets that is throttled until the end of the year 9999, then for two seconds, then
turned away for three seconds, then cut off, then moved, and served at last. -/
def hostile : List Encounter :=
  let meets (s : Nat) (result : Except TransportError Response) : Encounter :=
    ⟨⟨0, s * 1000000000⟩, 0, result⟩
  let quiet (s : Nat) := meets s (.error (.timeout Span.zero))
  let answer (status : Nat) (name value : String) : Except TransportError Response :=
    .ok ⟨⟨status⟩, [⟨name, value.toList.map fun c => UInt8.ofNat c.toNat⟩], []⟩
  [quiet 0, quiet 0, meets 0 (answer 429 "retry-after" "Fri, 31 Dec 9999 23:59:59 GMT"), quiet 0,
    quiet 30, quiet 30, meets 30 (answer 429 "retry-after" "Thu, 01 Jan 1970 00:00:32 GMT"),
    quiet 30, quiet 32, quiet 32,
    meets 32 (answer 503 "retry-after" "Thu, 01 Jan 1970 00:00:35 GMT"), quiet 32,
    quiet 35, quiet 35, meets 35 (.error (.io "reset")), quiet 35,
    quiet 36, quiet 36, meets 36 (answer 307 "location" "http://b/x"), quiet 36,
    quiet 36, quiet 36, meets 36 (.ok ⟨⟨200⟩, [], []⟩), quiet 36]

/-- The call waits for half a minute where it is asked to for eight thousand years, then for as long
as it is asked to, then as its policy says for the third retry, and not at all for a redirect. -/
theorem waits_follow_attempts_hostile :
    ∃ t accounts waits, Paced patient
        (start patient ⟨0, 0⟩ patient.fresh ⟨.of "GET" "/", none, .empty⟩).1 t accounts waits ∧
      accounts.map Account.requested? = [some (.ofMillis 253402300799000),
        some (.ofMillis 2000), some (.ofMillis 3000), none, none, none] ∧
      waits = [.ofMillis 30000, .ofMillis 2000, .ofMillis 3000, .ofMillis 1000, .zero] ∧
      (∃ r drawn, accounts[1]? = some r ∧
        Account.wait? patient drawn (Account.retries (accounts.take 1)) r =
          some (.ofMillis 2000)) ∧
      t.IsFinished ∧ t.call.attempts = 6 ∧
      total waits ≤ (t.call.retries * 30000 + t.call.relocations * 30000) * 1000000 := by
  let first := (start patient ⟨0, 0⟩ patient.fresh ⟨.of "GET" "/", none, .empty⟩).1
  have run := (@Paced.starts patient first).passes hostile
  rw [List.nil_append, List.nil_append] at run
  have asked : (passes patient first hostile).2.1.map Account.requested? =
      [some (.ofMillis 253402300799000), some (.ofMillis 2000), some (.ofMillis 3000),
        none, none, none] := by
    decide +kernel
  have waits : (passes patient first hostile).2.2 =
      [.ofMillis 30000, .ofMillis 2000, .ofMillis 3000, .ofMillis 1000, .zero] := by
    decide +kernel
  have ends : ((passes patient first hostile).1.point.result?).isSome = true := by decide +kernel
  -- from here on it does not matter how the call came to its end
  generalize passes patient first hostile = p at run asked waits ends
  obtain ⟨result, stands⟩ := Option.isSome_iff_exists.mp ends
  have ended := Point.result?_eq_some_iff.mp stands
  obtain ⟨_, due, _, last, bound⟩ := waits_follow_attempts run
  obtain ⟨r, drawn, second, law, _⟩ := due 1 (.ofMillis 2000) (by rw [waits]; rfl)
  refine ⟨_, _, _, run, asked, waits, ⟨r, drawn, second, law⟩, ⟨result, ended⟩, ?_,
    bound { jitter := false } rfl rfl⟩
  rw [← last result ended, waits]
  rfl

end Session
end Failover
