import Failover.Proofs.Call.Course

/-!
# What a call meets

A step of a call is settled by the session and by what the call meets: the moment, the jitter that
is drawn, and how the exchange under way ends, if one is. `Session.meet` is the step as a function
of both, so that a run is told by what is met on it. It makes the steps of `Session.Step` and no
others.
-/

namespace Failover

/-- What a call meets on a step. -/
structure Encounter where
  clock : Clock
  drawn : Nat
  result : Except TransportError Response

namespace Session

variable {e : Engine}

/-- The next step of a call with what it meets. A call that pauses goes on when the moment has come,
and one that has ended stays as it is. -/
def meet (e : Engine) (s : Session e.endpoints) (x : Encounter) :
    Session e.endpoints × List Event :=
  match s.point with
  | .entering phase => enter e x.clock x.drawn s phase
  | .waiting url _ => seekPermit e x.clock x.drawn s url
  | .exchanging url started _ => settle e x.clock x.drawn s url started x.result
  | .pausing moment =>
    if moment ≤ x.clock.elapsed then ({ s with point := .entering .attempting }, []) else (s, [])
  | .finished _ => (s, [])

/-- Whether a call stays where it is although it meets something: it has ended, or pauses on. -/
def IsStill (s : Session e.endpoints) (x : Encounter) : Prop :=
  s.IsFinished ∨ ∃ moment, s.point = .pausing moment ∧ x.clock.elapsed < moment

/-- What a call meets has it stay, or take a step. -/
theorem meet_step (s : Session e.endpoints) (x : Encounter) :
    (s.IsStill x ∧ meet e s x = (s, [])) ∨
    Step e x.clock s (meet e s x).1 (meet e s x).2 := by
  unfold meet
  cases stands : s.point with
  | entering phase => exact .inr (.enter x.drawn stands)
  | waiting url signals => exact .inr (.ask x.drawn stands)
  | exchanging url started request => exact .inr (.hear x.drawn x.result stands)
  | pausing moment =>
    by_cases due : moment ≤ x.clock.elapsed
    · simp only [if_pos due]
      exact .inr (.resume stands due)
    · simp only [if_neg due]
      exact .inl ⟨.inr ⟨moment, stands, Nat.lt_of_not_le due⟩, trivial⟩
  | finished result => exact .inl ⟨.inl ⟨result, stands⟩, rfl⟩

/-- For every step there is something to meet that has the call take it. -/
theorem Step.exists_meet {clock : Clock} {s t : Session e.endpoints} {events : List Event}
    (step : Step e clock s t events) : ∃ x, x.clock = clock ∧ meet e s x = (t, events) := by
  cases step with
  | enter drawn stands =>
    exact ⟨⟨clock, drawn, .error (.timeout Span.zero)⟩, rfl, by simp only [meet, stands]⟩
  | ask drawn stands =>
    exact ⟨⟨clock, drawn, .error (.timeout Span.zero)⟩, rfl, by simp only [meet, stands]⟩
  | hear drawn result stands => exact ⟨⟨clock, drawn, result⟩, rfl, by simp only [meet, stands]⟩
  | resume stands due =>
    exact ⟨⟨clock, 0, .error (.timeout Span.zero)⟩, rfl, by simp only [meet, stands, if_pos due]⟩

/-- A session that asks for a permit meets the answer. -/
theorem meet_asks {s a : Session e.endpoints} {url : Url} {front : List Event}
    (asks : Asks s a url front) (x : Encounter) :
    meet e s x = ((seekPermit e x.clock x.drawn a url).1,
      front ++ (seekPermit e x.clock x.drawn a url).2) := by
  cases asks with
  | anew stands read =>
    simp only [meet, stands, enter, attempt_of_ok read]
    rfl
  | again stands => simp only [meet, stands, List.nil_append]

end Session
end Failover
