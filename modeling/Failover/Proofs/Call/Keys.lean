import Failover.Proofs.Call.Encounter
import Failover.Proofs.Call.Permits
import Failover.Proofs.Limiter.Keys

/-!
# Calls under different keys

A call has one key from its start to its end. All that it asks of limiters it asks under this key,
so that whoever uses another one does not notice the call; and of what the limiters have come to it
learns no more than what that of its own key has. No limiter is ever found under a key that is not
its name.
-/

namespace Failover

open Limiters (Use Reply Deed Account AgreeOn)

namespace Session

variable {e : Engine} {clock : Clock} {s t a : Session e.endpoints} {ms : Limiters} {url : Url}

/-! ## What a call does to the limiters -/

/-- From `s` to `t` a call keeps its key, and what it does to the limiters are uses of that one. -/
structure KeepsTo (clock : Clock) (s t : Session e.endpoints) : Prop where
  key : t.call.key = s.call.key
  uses : ∃ uses, t.shared.limiters = s.shared.limiters.serveAll clock s.call.key uses

theorem KeepsTo.of_same (key : t.call.key = s.call.key)
    (same : t.shared.limiters = s.shared.limiters) : KeepsTo clock s t where
  key := key
  uses := ⟨[], same⟩

theorem KeepsTo.trans {u : Session e.endpoints} (h : KeepsTo clock s t) (h' : KeepsTo clock t u) :
    KeepsTo clock s u where
  key := h'.key.trans h.key
  uses := by
    obtain ⟨uses, here⟩ := h.uses
    obtain ⟨more, there⟩ := h'.uses
    refine ⟨uses ++ more, ?_⟩
    rw [there, here, h.key, Limiters.serveAll_append]

/-- The limiters of other keys stay as they are. -/
theorem KeepsTo.others (h : KeepsTo clock s t) {other : String} (apart : other ≠ s.call.key) :
    AgreeOn other s.shared.limiters t.shared.limiters := by
  obtain ⟨uses, same⟩ := h.uses
  rw [same]
  exact Limiters.agreeOn_serveAll _ clock uses (Ne.symm apart)

/-- A session that asks for a permit asks the limiter of its key. -/
theorem Asks.acquires {front events : List Event} {answer : Controller.Admission} {c : Controller}
    (asks : Asks s a url front) (answered : (a.limiter clock).acquire = (answer, c, events)) :
    (a.withLimiter c).shared.limiters =
      s.shared.limiters.serveAll clock s.call.key [.acquire] := by
  obtain ⟨shared, key, _⟩ := asks.frame
  have lent : c = (a.limiter clock).acquire.2.1 := by rw [answered]
  rw [lent, ← shared, ← key]
  rfl

theorem Asks.keepsTo {front events : List Event} {answer : Controller.Admission} {c : Controller}
    (asks : Asks s a url front) (answered : (a.limiter clock).acquire = (answer, c, events)) :
    KeepsTo clock s (a.withLimiter c) :=
  ⟨asks.frame.2.1, _, asks.acquires answered⟩

/-- The end of an attempt is told to the limiter of the call, which takes the permit back. -/
theorem settle_releases {drawn started : Nat} {result : Except TransportError Response}
    {events : List Event} (settled : settle e clock drawn s url started result = (t, events)) :
    t.shared.limiters = s.shared.limiters.serveAll clock s.call.key
      [.release (s.exchange clock url started result).completion] := by
  obtain ⟨x, rfl, rfl, _⟩ := settle_follow settled
  exact (follow_frame drawn (s.told _) _).1

theorem settle_keepsTo {drawn started : Nat} {result : Except TransportError Response}
    {events : List Event} (settled : settle e clock drawn s url started result = (t, events)) :
    KeepsTo clock s t := by
  refine ⟨?_, _, settle_releases settled⟩
  obtain ⟨x, _, rfl, _⟩ := settle_follow settled
  exact (follow_frame drawn (s.told x) x.outcome).2.1

theorem Transition.keepsTo {events : List Event} (row : Transition e clock s t events) :
    KeepsTo clock s t := by
  cases row with
  | waits asks answer => exact { asks.keepsTo answer with }
  | @refused a _ _ _ _ c _ _ call _ asks answer retried =>
    have kept : call.key = a.call.key := congrArg (·.key) (Call.eq_of_retry retried)
    exact ⟨kept.trans asks.frame.2.1, (asks.keepsTo answer).uses⟩
  | sends asks answer built => exact { asks.keepsTo answer with }
  | unsendable asks answer bad settled =>
    exact (asks.keepsTo answer).trans (settle_keepsTo settled)
  | hears stands settled => exact settle_keepsTo settled
  | _ => exact .of_same rfl rfl

/-- Whatever a call meets, it keeps to its key. -/
theorem meet_keepsTo (s : Session e.endpoints) (x : Encounter) :
    KeepsTo x.clock s (meet e s x).1 := by
  rcases meet_step s x with ⟨_, same⟩ | step
  · rw [same]
    exact .of_same rfl rfl
  · exact step.transition.keepsTo

/-- How a call that is dropped uses its limiter: it gives back the permit that it holds. -/
def farewell (s : Session e.endpoints) : List Use :=
  if s.point.isExchanging then [.release .ignored] else []

theorem limiters_cancel (clock : Clock) (s : Session e.endpoints) :
    (cancel e clock s).1.limiters =
      s.shared.limiters.serveAll clock s.call.key s.farewell := by
  unfold cancel farewell
  cases s.point <;> rfl

/-! ## Names of limiters -/

theorem KeepsTo.isNamed (h : KeepsTo clock s t) (named : s.shared.limiters.IsNamed) :
    t.shared.limiters.IsNamed := by
  obtain ⟨uses, same⟩ := h.uses
  rw [same]
  exact named.serveAll clock s.call.key uses

/-- A course on which every limiter has the name of its key, whatever others do to the limiters
before each step. -/
inductive NamedCourse (e : Engine) (first : Session e.endpoints) :
    Session e.endpoints → List Nat → List (Nat × Event) → Prop
  | starts : NamedCourse e first first [] []
  | goes {s t : Session e.endpoints} {tried : List Nat} {log : List (Nat × Event)} {clock : Clock}
      {events : List Event} (course : NamedCourse e first s tried log)
      (shared : Shared e.endpoints) (named : shared.limiters.IsNamed)
      (step : Step e clock { s with shared } t events) :
      NamedCourse e first t (tried ++ s.begins) (log ++ events.map (clock.elapsed, ·))

/-- A call has the same key all along its course. -/
theorem Course.key {first : Session e.endpoints} {tried : List Nat} {log : List (Nat × Event)}
    (course : Course e first t tried log) : t.call.key = first.call.key := by
  refine course.induction (Q := fun s _ _ => s.call.key = first.call.key) rfl (fun _ => id) ?_
  intro clock s t tried log events row same
  exact row.keepsTo.key.trans same

theorem NamedCourse.course {first : Session e.endpoints} {tried : List Nat}
    {log : List (Nat × Event)} (course : NamedCourse e first t tried log) :
    Course e first t tried log := by
  induction course with
  | starts => exact .starts
  | goes _ shared _ step ih => exact ih.goes shared step

end Session

/-- A call that goes through a scripted network is on such a course by itself. -/
theorem Travel.run_namedCourse {e : Engine} (clock : Clock) {t : Travel e.endpoints}
    (named : t.session.shared.limiters.IsNamed) :
    ∃ tried log, Session.NamedCourse e t.session (run e clock t).session tried log := by
  obtain ⟨tried, log, _, course⟩ := run_induction clock (t := t)
    (Q := fun s tried log => s.shared.limiters.IsNamed ∧
      Session.NamedCourse e t.session s tried log) ⟨named, .starts⟩
    fun step ⟨named, course⟩ =>
      ⟨step.transition.keepsTo.isNamed named, course.goes _ named step⟩
  exact ⟨tried, log, course⟩

namespace Crowd

variable {e : Engine} {g h : Crowd e}

/-- Whatever happens in a crowd, limiters keep their names. -/
theorem Step.isNamed (step : Step g h) (named : g.shared.limiters.IsNamed) :
    h.shared.limiters.IsNamed := by
  cases step with
  | begins clock o started =>
    rw [← congrArg (·.1.shared.limiters) started]
    exact named.serve clock (o.key.getD e.service) .look
  | moves among step => exact step.transition.keepsTo.isNamed named
  | @cancels before after c clock among =>
    show (Session.cancel e clock (g.session c)).1.limiters.IsNamed
    rw [Session.limiters_cancel]
    exact named.serveAll clock c.1.key _
  | looksUp clock key => exact named.serve clock key .look
  | @borrows answer c events clock key answered =>
    have lent : c = (g.shared.limiters.obtain clock key).1.acquire.2.1 := by rw [answered]
    subst lent
    exact named.serve clock key .acquire
  | returns clock key completion holds => exact named.serve clock key (.release completion)

/-- A call whose limiters have had the names of their keys on all its way. -/
def IsOnCourse (e : Engine) (c : Call × Point) : Prop :=
  ∃ (clock : Clock) (shared left : Shared e.endpoints) (o : CallOptions) (tried : List Nat)
    (log : List (Nat × Event)),
    Session.NamedCourse e (Session.start e clock shared o).1 ⟨left, c.1, c.2⟩ tried log

theorem Step.isOnCourse (step : Step g h) (named : g.shared.limiters.IsNamed)
    (all : ∀ c ∈ g.calls, IsOnCourse e c) : ∀ c ∈ h.calls, IsOnCourse e c := by
  -- the calls next to one that moves or is dropped are those that were there
  have others : ∀ {before after : List (Call × Point)} {c : Call × Point},
      g.calls = before ++ c :: after → ∀ d ∈ before ++ after, IsOnCourse e d := by
    intro before after c among d old
    refine all d ?_
    rw [among, List.perm_middle.mem_iff]
    exact List.mem_cons_of_mem c old
  cases step with
  | @begins s events clock o started =>
    intro c inside
    rcases List.mem_cons.mp inside with rfl | old
    · refine ⟨clock, g.shared, s.shared, o, [], [], ?_⟩
      rw [started]
      exact .starts
    · exact all c old
  | @moves clock before after c s events among step =>
    intro d inside
    rcases List.mem_cons.mp (List.perm_middle.mem_iff.mp inside) with rfl | old
    · obtain ⟨begun, first, left, o, tried, log, course⟩ := all c (by rw [among]; simp)
      exact ⟨begun, first, s.shared, o, _, _, course.goes g.shared named step⟩
    · exact others among d old
  | cancels clock among => exact others among
  | looksUp clock key => exact all
  | borrows clock key answered => exact all
  | returns clock key completion holds => exact all

/-- From the first call of an engine on its limiters have the names of their keys, so that every
call is on such a course. -/
theorem Reaches.named {preferred : Preferred e.endpoints} (reached : Reaches (fresh preferred) g) :
    g.shared.limiters.IsNamed ∧ ∀ c ∈ g.calls, IsOnCourse e c := by
  induction reached with
  | refl => exact ⟨Limiters.isNamed_ofSettings e.limiter, List.forall_mem_nil _⟩
  | tail _ step ih => exact ⟨step.isNamed ih.1, step.isOnCourse ih.1 ih.2⟩

end Crowd

namespace Session

variable {e : Engine} {clock : Clock} {s t a : Session e.endpoints} {ms : Limiters} {url : Url}

/-! ## What the limiters do to a call -/

/-- The session with other limiters. -/
def withLimiters (s : Session e.endpoints) (ms : Limiters) : Session e.endpoints :=
  { s with shared := { s.shared with limiters := ms } }

/-- Two sessions that differ at most in the limiters of other keys. -/
def IsTwin (key : String) (s t : Session e.endpoints) : Prop :=
  ∃ ms, AgreeOn key s.shared.limiters ms ∧ t = s.withLimiters ms

/-- Two steps that lead to such sessions, with the same events. -/
structure Alike (key : String) (p q : Session e.endpoints × List Event) : Prop where
  twin : IsTwin key p.1 q.1
  events : q.2 = p.2

theorem Alike.map {key : String} {p q : Session e.endpoints × List Event} (h : Alike key p q)
    (f : List Event → List Event) : Alike key (p.1, f p.2) (q.1, f q.2) :=
  ⟨h.twin, congrArg f h.events⟩

theorem limiter_withLimiters (agree : AgreeOn s.call.key s.shared.limiters ms) (clock : Clock) :
    (s.withLimiters ms).limiter clock = s.limiter clock :=
  congrArg Prod.fst (agree.obtain clock)

theorem follow_withLimiters (drawn : Nat) (s : Session e.endpoints) (ms : Limiters)
    (outcome : Outcome) :
    follow e drawn (s.withLimiters ms) outcome =
      ((follow e drawn s outcome).1.withLimiters ms, (follow e drawn s outcome).2) := by
  cases outcome <;> rfl

theorem settle_alike (agree : AgreeOn s.call.key s.shared.limiters ms) (drawn started : Nat)
    (url : Url) (result : Except TransportError Response) :
    Alike s.call.key (settle e clock drawn s url started result)
      (settle e clock drawn (s.withLimiters ms) url started result) := by
  let x := s.exchange clock url started result
  let learned := ((s.limiter clock).release clock x.completion).1
  let later := ms.put s.call.key learned
  have tells : (s.withLimiters ms).told x = (s.told x).withLimiters later := by
    rw [told, limiter_withLimiters agree]
    rfl
  have follows := follow_withLimiters (e := e) drawn (s.told x) later x.outcome
  rw [← tells] at follows
  refine ⟨⟨later, ?_, ?_⟩, ?_⟩
  · show AgreeOn s.call.key (follow e drawn (s.told x) x.outcome).1.shared.limiters _
    rw [(follow_frame drawn (s.told x) x.outcome).1]
    exact agree.put learned
  · exact congrArg Prod.fst follows
  · show (((s.withLimiters ms).limiter clock).release clock x.completion).2 ++ _ ++
      (follow e drawn ((s.withLimiters ms).told x) x.outcome).2 = _
    rw [follows, limiter_withLimiters agree]
    rfl

theorem send_alike (agree : AgreeOn s.call.key s.shared.limiters ms) (drawn : Nat) (url : Url) :
    Alike s.call.key (send e clock drawn s url) (send e clock drawn (s.withLimiters ms) url) := by
  have same : (s.withLimiters ms).call = s.call := rfl
  unfold send
  rw [same]
  cases s.call.request.sentTo url with
  | ok request => exact ⟨⟨ms, agree, rfl⟩, rfl⟩
  | error error => exact (settle_alike agree drawn clock.elapsed url _).map (_ :: ·)

theorem seekPermit_alike (agree : AgreeOn s.call.key s.shared.limiters ms) (drawn : Nat)
    (url : Url) :
    Alike s.call.key (seekPermit e clock drawn s url)
      (seekPermit e clock drawn (s.withLimiters ms) url) := by
  unfold seekPermit
  rw [limiter_withLimiters agree]
  rcases (s.limiter clock).acquire with ⟨answer, c, events⟩
  cases answer with
  | granted =>
    exact (send_alike (s := s.withLimiter c) (agree.put c) drawn url).map (events ++ ·)
  | refused error => exact ⟨⟨ms.put s.call.key c, agree.put c, rfl⟩, rfl⟩
  | waiting signals => exact ⟨⟨ms.put s.call.key c, agree.put c, rfl⟩, rfl⟩

theorem attempt_alike (agree : AgreeOn s.call.key s.shared.limiters ms) (drawn : Nat) :
    Alike s.call.key (attempt e clock drawn s) (attempt e clock drawn (s.withLimiters ms)) := by
  cases read : Url.parse (target s.call.endpoint s.call.path) with
  | ok url =>
    rw [attempt_of_ok read, attempt_of_ok (s := s.withLimiters ms) read]
    exact seekPermit_alike (s := { s with call := s.call.tried }) agree drawn url
  | error error =>
    rw [attempt_of_error read, attempt_of_error (s := s.withLimiters ms) read]
    exact ⟨⟨ms, agree, rfl⟩, rfl⟩

theorem relocate_alike (agree : AgreeOn s.call.key s.shared.limiters ms) (aim : Relocation)
    (delay : Option Span) :
    Alike s.call.key (relocate e clock s aim delay)
      (relocate e clock (s.withLimiters ms) aim delay) := by
  cases moved : s.call.selector.relocate aim with
  | ok selected =>
    have moved' : (s.withLimiters ms).call.selector.relocate aim = .ok selected := moved
    simp only [relocate, moved, moved']
    exact ⟨⟨ms, agree, rfl⟩, rfl⟩
  | error error =>
    have moved' : (s.withLimiters ms).call.selector.relocate aim = .error error := moved
    cases error <;> simp only [relocate, moved, moved'] <;> exact ⟨⟨ms, agree, rfl⟩, rfl⟩

/-- A call that enters a phase goes on alike whatever the limiters of other keys. -/
theorem enter_alike (agree : AgreeOn s.call.key s.shared.limiters ms) (drawn : Nat)
    (phase : Phase) :
    Alike s.call.key (enter e clock drawn s phase)
      (enter e clock drawn (s.withLimiters ms) phase) := by
  cases phase with
  | attempting =>
    simp only [enter]
    exact (attempt_alike agree drawn).map (.stageEntered .attempting :: ·)
  | relocating aim delay =>
    simp only [enter]
    exact (relocate_alike agree aim delay).map (.stageEntered .relocating :: ·)
  | _ => exact ⟨⟨ms, agree, rfl⟩, rfl⟩

/-- Whatever a call meets, it goes on alike whatever the limiters of other keys. -/
theorem meet_alike (agree : AgreeOn s.call.key s.shared.limiters ms) (x : Encounter) :
    Alike s.call.key (meet e s x) (meet e (s.withLimiters ms) x) := by
  have same : (s.withLimiters ms).point = s.point := rfl
  unfold meet
  rw [same]
  cases s.point with
  | entering phase => exact enter_alike agree x.drawn phase
  | waiting url signals => exact seekPermit_alike agree x.drawn url
  | exchanging url started request => exact settle_alike agree x.drawn started url x.result
  | pausing moment =>
    by_cases due : moment ≤ x.clock.elapsed
    · simp only [if_pos due]
      exact ⟨⟨ms, agree, rfl⟩, rfl⟩
    · simp only [if_neg due]
      exact ⟨⟨ms, agree, rfl⟩, rfl⟩
  | finished result => exact ⟨⟨ms, agree, rfl⟩, rfl⟩

/-! ## A call among others -/

/-- What can come next while a call is on its way: something happens to the limiters, or the call
meets something. -/
inductive Happening where
  | deed (deed : Deed)
  | meets (drawn : Nat) (result : Except TransportError Response)

namespace Happening

/-- What happens to the limiters without the call. -/
def deed? : Happening → Option Deed
  | deed d => some d
  | meets _ _ => none

/-- Whether this concerns a call under a key. -/
def concerns (key : String) : Happening → Bool
  | deed d => d.concerns key
  | meets _ _ => true

theorem concerns_use_self (key : String) (use : Use) :
    (deed (.use key use)).concerns key = true :=
  Deed.concerns_use_self key use

theorem not_concerns_use {key other : String} (use : Use) (apart : other ≠ key) :
    ¬(deed (.use other use)).concerns key = true :=
  Deed.not_concerns_use use apart

end Happening

/-- A call on its way among all that happens, with the replies to the others and its own events. -/
def among (e : Engine) (s : Session e.endpoints) (clock : Clock) :
    List Happening → Account (Session e.endpoints) × List Event
  | [] => (⟨[], s, clock⟩, [])
  | .deed (.use key use) :: rest =>
    let (reply, next) := s.shared.limiters.serve clock key use
    let (later, events) := among e (s.withLimiters next) clock rest
    (later.after key reply, events)
  | .deed (.advance span) :: rest => among e s (clock.advance span) rest
  | .meets drawn result :: rest =>
    let (t, events) := meet e s ⟨clock, drawn, result⟩
    let (later, more) := among e t clock rest
    (later, events ++ more)

/-- What happens under other keys can be left out for a call. -/
theorem among_filter {key : String} (own : s.call.key = key)
    (agree : AgreeOn key s.shared.limiters ms) (clock : Clock) (happenings : List Happening) :
    let all := among e s clock happenings
    let alone := among e (s.withLimiters ms) clock (happenings.filter (·.concerns key))
    all.1.IsShare (IsTwin key) key alone.1 ∧ alone.2 = all.2 := by
  induction happenings generalizing s ms clock with
  | nil => exact ⟨⟨rfl, ⟨ms, agree, rfl⟩, rfl⟩, rfl⟩
  | cons happening rest ih =>
    match happening with
    | .deed (.advance span) => exact ih own agree (clock.advance span)
    | .deed (.use other use) =>
      let served := s.withLimiters (s.shared.limiters.serve clock other use).2
      by_cases same : other = key
      · subst same
        obtain ⟨reply, next⟩ := agree.serve clock use
        obtain ⟨share, events⟩ := ih (s := served) own next clock
        rw [List.filter_cons_of_pos (Happening.concerns_use_self other use)]
        simp only [among, show (s.withLimiters ms).shared.limiters = ms from rfl, reply]
        exact ⟨share.after_self _, events⟩
      · have next := (Limiters.agreeOn_serve s.shared.limiters clock use same).symm.trans agree
        obtain ⟨share, events⟩ := ih (s := served) own next clock
        rw [List.filter_cons_of_neg (Happening.not_concerns_use use same)]
        exact ⟨share.after_of_ne same _, events⟩
    | .meets drawn result =>
      obtain ⟨⟨ms', agree', twin⟩, same⟩ :=
        meet_alike (e := e) (own ▸ agree) ⟨clock, drawn, result⟩
      have kept := (meet_keepsTo s ⟨clock, drawn, result⟩).key.trans own
      rw [own] at agree'
      obtain ⟨share, events⟩ := ih kept agree' clock
      rw [List.filter_cons_of_pos rfl]
      simp only [among, twin, same, events]
      exact ⟨share, trivial⟩

/-- What others do under another key than the call's goes on as if there were no call. -/
theorem among_other {other : String} (apart : other ≠ s.call.key)
    (agree : AgreeOn other s.shared.limiters ms) (clock : Clock) (happenings : List Happening) :
    (among e s clock happenings).1.IsShare (fun t ls => AgreeOn other t.shared.limiters ls) other
      (ms.run clock ((happenings.filterMap Happening.deed?).filter (·.concerns other))) := by
  induction happenings generalizing s ms clock with
  | nil => exact ⟨rfl, agree, rfl⟩
  | cons happening rest ih =>
    match happening with
    | .deed (.advance span) => exact ih apart agree (clock.advance span)
    | .deed (.use key use) =>
      rw [List.filterMap_cons_some (show Happening.deed? (.deed (.use key use)) = _ from rfl)]
      let served := s.withLimiters (s.shared.limiters.serve clock key use).2
      by_cases same : key = other
      · subst same
        obtain ⟨reply, next⟩ := agree.serve clock use
        rw [List.filter_cons_of_pos (Deed.concerns_use_self key use)]
        simp only [Limiters.run, reply]
        exact (ih (s := served) apart next clock).after_self _
      · have next := (Limiters.agreeOn_serve s.shared.limiters clock use same).symm.trans agree
        rw [List.filter_cons_of_neg (Deed.not_concerns_use use same)]
        exact (ih (s := served) apart next clock).after_of_ne same _
    | .meets drawn result =>
      have keeps := meet_keepsTo s ⟨clock, drawn, result⟩
      exact ih (s := (meet e s ⟨clock, drawn, result⟩).1) (keeps.key ▸ apart)
        ((keeps.others apart).symm.trans agree) clock

/-- So do all replies that they get there, and the limiter that they leave. -/
theorem among_without {other : String} (s : Session e.endpoints) (clock : Clock)
    (happenings : List Happening) (apart : other ≠ s.call.key) :
    let crowd := (among e s clock happenings).1
    let without := s.shared.limiters.run clock (happenings.filterMap Happening.deed?)
    without.under other = crowd.under other ∧
    AgreeOn other crowd.state.shared.limiters without.state := by
  intro crowd without
  -- both are what the deeds that concern the other key come to by themselves
  have left := among_other apart (.refl other _) clock happenings
  have right := (AgreeOn.refl other s.shared.limiters).run_filter clock
    (happenings.filterMap Happening.deed?)
  exact ⟨right.replies.symm.trans left.replies, left.state.trans right.state.symm⟩

end Session

/-! ## The main result -/

namespace Limiters

/-- Limiters of different keys do not touch each other, however they are used. The limiter of a key
is found again whenever it is asked for: it was made at the first use of the key, and it is what it
would be, with all replies, if nothing had happened since then but the uses of its key and the
passing of time. There are as many limiters as keys that were used. So a call takes the same steps,
with the same events, if all that others do under other keys is left out, and whatever they do there
gets the replies that it would get without the call. All that a call does to the limiters, from its
start until it ends or is dropped, are uses of its key like any others. -/
theorem keys_isolated (s : LimiterSettings) (clock : Clock) (deeds : List Deed) :
    let all := (ofSettings s).run clock deeds
    (∀ key ∈ Deed.keys deeds,
      let (life, birth) := Deed.lifeOf key clock deeds
      let own := (create s key birth).1.run birth life
      own.replies = all.under key ∧ own.clock = all.clock ∧
      (∀ moment, all.state.obtain moment key = (own.state, [])) ∧
      own.state.name = key ∧ own.state.created = birth.elapsed) ∧
    (∀ key, key ∉ Deed.keys deeds → all.state.find? key = none) ∧
    all.state.size = (Deed.keys deeds).dedup.length ∧
    ∀ (e : Engine) (call : Session e.endpoints) (now : Clock) (rest : List Session.Happening),
      let key := call.call.key
      let crowd := Session.among e call now rest
      let alone := Session.among e call now (rest.filter (·.concerns key))
      (alone.2 = crowd.2 ∧ alone.1.replies = crowd.1.under key ∧
        alone.1.state.call = crowd.1.state.call ∧ alone.1.state.point = crowd.1.state.point ∧
        alone.1.state.shared.limiters.find? key = crowd.1.state.shared.limiters.find? key) ∧
      (∀ other, other ≠ key →
        let without := call.shared.limiters.run now (rest.filterMap Session.Happening.deed?)
        without.under other = crowd.1.under other ∧
        without.state.find? other = crowd.1.state.shared.limiters.find? other) ∧
      (∀ o, (Session.start e now call.shared o).1.shared.limiters =
        call.shared.limiters.serveAll now (o.key.getD e.service) [.look]) ∧
      (∀ drawn result, ∃ uses,
        (Session.meet e call ⟨now, drawn, result⟩).1.shared.limiters =
          call.shared.limiters.serveAll now key uses) ∧
      (Session.cancel e now call).1.limiters =
        call.shared.limiters.serveAll now key call.farewell := by
  intro all
  obtain ⟨_, mem⟩ := keys_run (ofSettings s) clock deeds List.nodup_nil
  refine ⟨fun key used => ?_, fun key unused => ?_, size_run s clock deeds, ?_⟩
  · have unmade : (ofSettings s).find? key = none := rfl
    have share := run_of_new unmade clock used
    rcases lived : Deed.lifeOf key clock deeds with ⟨life, birth⟩
    simp only [lived] at share
    obtain ⟨name, created⟩ := (create s key birth).1.run_frame birth life
    obtain ⟨named, made⟩ := create_frame s key birth
    exact ⟨share.replies, share.clock, share.state.obtain, name.trans named, created.trans made⟩
  · rw [find?_eq_none_iff, mem]
    exact not_or.mpr ⟨List.not_mem_nil, unused⟩
  · intro e call now rest key crowd alone
    obtain ⟨share, events⟩ := Session.among_filter rfl (.refl key call.shared.limiters) now rest
    obtain ⟨ms, agree, twin⟩ := share.state
    refine ⟨⟨events, share.replies, ?_, ?_, ?_⟩, fun other apart => ?_, fun _ => rfl,
      fun drawn result => (Session.meet_keepsTo call ⟨now, drawn, result⟩).uses,
      Session.limiters_cancel now call⟩
    · exact congrArg (·.call) twin
    · exact congrArg (·.point) twin
    · exact (congrArg (·.shared.limiters.find? key) twin).trans agree.find
    · obtain ⟨replies, agree⟩ := Session.among_without call now rest apart
      exact ⟨replies, agree.find⟩

/-- Two keys in turn. The limiter of the second is as old as its own first use, and has lent the
permits that were asked of it, whatever the drop does to the other. Nor does a call under the second
key, which has begun its attempt, keep a caller from the permit under the first. -/
theorem keys_isolated_two :
    let deeds : List Deed := [.use "parts" .acquire, .advance (.ofMillis 5), .use "orders" .acquire,
      .use "parts" (.release .dropped), .use "orders" .tryAcquire, .advance (.ofMillis 1)]
    let all := (ofSettings {}).run ⟨0, 0⟩ deeds
    let call := (Session.start Crowd.lone ⟨0, 0⟩ Crowd.lone.fresh ⟨.of "GET" "/", none, .empty⟩).1
    let rest : List Session.Happening := [.meets 0 (.error (.timeout Span.zero)),
      .meets 0 (.error (.timeout Span.zero)), .deed (.use "parts" .acquire)]
    let crowd := (Session.among Crowd.lone call ⟨0, 0⟩ rest).1
    all.state.size = 2 ∧ all.state.find? "books" = none ∧
    (∃ c, (∀ moment, all.state.obtain moment "orders" = (c, [])) ∧
      c.name = "orders" ∧ c.created = 5000000 ∧ c.inFlight = 2) ∧
    crowd.state.call.attempts = 1 ∧
    crowd.under "parts" = [("parts", .answered .granted)] := by
  intro deeds all call rest crowd
  obtain ⟨each, unmade, size, calls⟩ := keys_isolated {} ⟨0, 0⟩ deeds
  obtain ⟨_, _, found, name, created⟩ := each "orders" (by decide)
  obtain ⟨_, others, _⟩ := calls Crowd.lone call ⟨0, 0⟩ rest
  exact ⟨size, unmade "books" (by decide), ⟨_, found, name, created, rfl⟩, by decide +kernel,
    (others "parts" (by decide)).1.symm⟩

end Limiters
end Failover
