import Failover.Limiter.Registry

/-! Limiters on their own: permits and waiting callers, numbered as they come, in virtual time.
Whoever is woken asks again; as long as anyone is woken, the first of them in order is served. -/
namespace Failover

/-- A permit that was lent, under a key and at a moment. -/
structure LentPermit where
  key : String
  granted : Nat

/-- A caller who asked for a permit: the key, and while waiting the signals known of. -/
structure Waiter where
  key : String
  signals : Option Nat

/-- The limiters with the permits lent so far, which are left out once they came back, and the
callers. -/
structure Queue where
  clock : Clock
  limiters : Limiters
  permits : List (Option LentPermit)
  waiters : List Waiter

namespace Queue

def start (s : LimiterSettings) (clock : Clock) : Queue := ⟨clock, .ofSettings s, [], []⟩

/-- The limiter of a key, made if it is new. -/
def look (q : Queue) (key : String) : Queue × Controller × List Event :=
  let (c, events) := q.limiters.obtain q.clock key
  ({ q with limiters := q.limiters.put key c }, c, events)

def withLimiter (q : Queue) (key : String) (c : Controller) : Queue :=
  { q with limiters := q.limiters.put key c }

/-- Numbers a permit that a limiter has lent. -/
def lend (q : Queue) (key : String) (c : Controller) : Queue × Nat :=
  ({ q.withLimiter key c with permits := q.permits ++ [some ⟨key, q.clock.elapsed⟩] },
    q.permits.length)

/-- Asks for a permit once; its number, if there is room. -/
def tryAcquire (q : Queue) (key : String) : Queue × Option Nat × List Event :=
  let (q, c, events) := q.look key
  match c.tryAcquire with
  | some (c, more) =>
    let (q, n) := q.lend key c
    (q, some n, events ++ more)
  | none => (q, none, events)

/-- The answer to a caller who would wait. -/
inductive Answer where
  | permit (number : Nat)
  | refused (error : AdmissionError)
  | waiting (number : Nat)

/-- Asks for a permit and waits for it if the limiter has callers wait. -/
def acquire (q : Queue) (key : String) : Queue × Answer × List Event :=
  let (q, c, events) := q.look key
  match c.acquire with
  | (.granted, c, more) =>
    let (q, n) := q.lend key c
    ({ q with waiters := q.waiters ++ [⟨key, none⟩] }, .permit n, events ++ more)
  | (.refused error, c, more) =>
    ({ q.withLimiter key c with waiters := q.waiters ++ [⟨key, none⟩] }, .refused error,
      events ++ more)
  | (.waiting signals, c, more) =>
    ({ q.withLimiter key c with waiters := q.waiters ++ [⟨key, some signals⟩] },
      .waiting q.waiters.length, events ++ more)

/-- How a holder ends, said by a word; a holder who says anything else just lets go. -/
def completionOf (how : String) (held rtt : Span) : Completion :=
  if how = "success" then .success held
  else if how = "rtt" then .success rtt
  else if how = "dropped" then .dropped
  else .ignored

/-- Gives a permit back; the name of its limiter and how long it was held. -/
def finish (q : Queue) (number : Nat) (how : String) (rtt : Span) :
    Queue × Option (String × Span) × List Event :=
  match q.permits[number]?.join with
  | none => (q, none, [])
  | some permit =>
    let held := q.clock.since permit.granted
    let (q, c, events) := q.look permit.key
    let (c, more) := c.release q.clock (completionOf how held rtt)
    ({ q.withLimiter permit.key c with permits := q.permits.set number none },
      some (c.name, held), events ++ more)

/-- Takes and gives back a permit so many times; the limit after each, or nothing where there was no
room. -/
def cycle (q : Queue) (key how : String) (rtt : Span) :
    Nat → Queue × List (Option Nat) × List Event
  | 0 => (q, [], [])
  | times + 1 =>
    let (q, c, events) := q.look key
    match c.tryAcquire with
    | none =>
      let (q, limits, rest) := cycle q key how rtt times
      (q, none :: limits, events ++ rest)
    | some (c, taken) =>
      let (c, given) := c.release q.clock (completionOf how Span.zero rtt)
      let (q, limits, rest) := cycle (q.withLimiter key c) key how rtt times
      (q, some c.limit :: limits, events ++ taken ++ given ++ rest)

/-- Takes permits, at most so many, until there is no room; how many there were. -/
def fill (q : Queue) (key : String) : Nat → Queue × Nat × List Event
  | 0 => (q, 0, [])
  | times + 1 =>
    match q.tryAcquire key with
    | (q, none, events) => (q, 0, events)
    | (q, some _, events) =>
      let (q, count, rest) := fill q key times
      (q, count + 1, events ++ rest)

/-- A waiting caller gives up; whether anyone was waiting under that number. -/
def cancel (q : Queue) (number : Nat) : Queue × Bool :=
  match q.waiters[number]? with
  | some ⟨key, some _⟩ => ({ q with waiters := q.waiters.set number ⟨key, none⟩ }, true)
  | _ => (q, false)

def advance (q : Queue) (d : Span) : Queue := { q with clock := q.clock.advance d }

/-- Whether a caller waits and has been woken. -/
def isWoken (q : Queue) (w : Waiter) : Bool :=
  match w.signals with
  | none => false
  | some signals => ((q.limiters.obtain q.clock w.key).1).signals != signals

/-- Serves the first caller who was woken: a grant, if there was one, with its numbers. -/
def serve? (q : Queue) : Option (Queue × Option (Nat × Nat) × List Event) := do
  let number ← q.waiters.findIdx? (q.isWoken ·)
  let w ← q.waiters[number]?
  let (q, c, events) := q.look w.key
  match c.acquire with
  | (.granted, c, more) =>
    let (q, n) := q.lend w.key c
    some ({ q with waiters := q.waiters.set number ⟨w.key, none⟩ }, some (number, n),
      events ++ more)
  | (.waiting signals, c, more) =>
    some ({ q.withLimiter w.key c with waiters := q.waiters.set number ⟨w.key, some signals⟩ },
      none, events ++ more)
  | (.refused _, c, more) =>
    some ({ q.withLimiter w.key c with waiters := q.waiters.set number ⟨w.key, none⟩ }, none,
      events ++ more)

/-- Serves callers until nobody is woken. Serving wakes nobody, so that each is served once. -/
def serveAll (q : Queue) : Nat → Queue × List (Nat × Nat) × List Event
  | 0 => (q, [], [])
  | fuel + 1 =>
    match q.serve? with
    | none => (q, [], [])
    | some (q, grant, events) =>
      let (q, grants, rest) := serveAll q fuel
      (q, grant.toList ++ grants, events ++ rest)

/-- Serves all callers who were woken; the grants by the numbers of caller and permit. -/
def settle (q : Queue) : Queue × List (Nat × Nat) × List Event :=
  q.serveAll (q.waiters.length + 1)

end Queue
end Failover
