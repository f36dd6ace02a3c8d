import Failover.Proofs.Call.Step

/-!
# Courses of a call

A course is a call on its way together with what is remembered of the way: the endpoints at which it
has begun its attempts, in order, and everything that happened on it, each thing with its moment.
Nothing is assumed of the moments, nor of what other calls do in between to what is shared.
-/

namespace Failover

namespace Session

variable {e : Engine} {first s t : Session e.endpoints} {tried : List Nat}
  {log : List (Nat × Event)}

/-- The endpoint of the attempt that the next step of a session begins, if it begins one. -/
def begins (s : Session e.endpoints) : List Nat :=
  match s.point with
  | .entering .attempting => [s.call.selector.current]
  | _ => []

/-- What a call can come to from `first`, with the endpoints tried and with what happened. -/
inductive Course (e : Engine) (first : Session e.endpoints) :
    Session e.endpoints → List Nat → List (Nat × Event) → Prop
  | starts : Course e first first [] []
  | goes {s t : Session e.endpoints} {tried : List Nat} {log : List (Nat × Event)} {clock : Clock}
      {events : List Event} (course : Course e first s tried log) (shared : Shared e.endpoints)
      (step : Step e clock { s with shared } t events) :
      Course e first t (tried ++ s.begins) (log ++ events.map (clock.elapsed, ·))

/-- A course leads to where the call can come to, and wherever it can come to, a course leads. -/
theorem reaches_iff_exists_course :
    Reaches e first t ↔ ∃ tried log, Course e first t tried log := by
  constructor
  · intro reached
    induction reached with
    | refl => exact ⟨_, _, .starts⟩
    | tail _ onward ih =>
      obtain ⟨tried, log, course⟩ := ih
      obtain ⟨clock, shared, events, step⟩ := onward
      exact ⟨_, _, course.goes shared step⟩
  · rintro ⟨tried, log, course⟩
    induction course with
    | starts => exact .refl
    | goes _ _ step ih => exact ih.tail ⟨_, _, _, step⟩

/-- Whatever holds at the start of a course and is kept by each row holds all along the course. The
change of what is shared comes before the step, and has to be harmless by itself. -/
theorem Course.induction {Q : Session e.endpoints → List Nat → List (Nat × Event) → Prop}
    (course : Course e first t tried log) (starts : Q first [] [])
    (shared : ∀ {s : Session e.endpoints} {tried : List Nat} {log : List (Nat × Event)}
      (shared : Shared e.endpoints), Q s tried log → Q { s with shared } tried log)
    (goes : ∀ {clock : Clock} {s t : Session e.endpoints} {tried : List Nat}
      {log : List (Nat × Event)} {events : List Event}, Transition e clock s t events →
      Q s tried log → Q t (tried ++ s.begins) (log ++ events.map (clock.elapsed, ·))) :
    Q t tried log := by
  induction course with
  | starts => exact starts
  | @goes s t _ _ _ _ _ change step ih =>
    exact goes (s := { s with shared := change }) step.transition (shared change ih)

end Session

/-- Whatever holds at the start of a call that goes through a scripted network and is kept by each
step, with the endpoints tried and with what happened, holds in the end. -/
theorem Travel.run_induction {e : Engine}
    {Q : Session e.endpoints → List Nat → List (Nat × Event) → Prop} (clock : Clock)
    {t : Travel e.endpoints} (starts : Q t.session [] [])
    (goes : ∀ {clock : Clock} {s u : Session e.endpoints} {tried : List Nat}
      {log : List (Nat × Event)} {events : List Event}, Session.Step e clock s u events →
      Q s tried log → Q u (tried ++ s.begins) (log ++ events.map (clock.elapsed, ·))) :
    ∃ tried log, Q (run e clock t).session tried log := by
  have proceeds : ∀ (n : Nat) {u : Travel e.endpoints} {tried : List Nat}
      {log : List (Nat × Event)}, Q u.session tried log →
      ∃ tried log, Q (proceed e clock n u).session tried log := by
    intro n
    induction n with
    | zero => exact fun holds => ⟨_, _, holds⟩
    | succ n ih =>
      intro u tried log holds
      rw [proceed]
      split
      · rename_i stepped
        obtain ⟨events, step, _⟩ := step?_step stepped
        exact ih (goes step holds)
      · exact ⟨_, _, holds⟩
  exact proceeds _ starts

/-- Such a call is on a course. -/
theorem Travel.run_course (e : Engine) (clock : Clock) (t : Travel e.endpoints) :
    ∃ tried log, Session.Course e t.session (run e clock t).session tried log :=
  run_induction clock .starts fun step course => course.goes _ step

end Failover
