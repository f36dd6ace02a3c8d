import Failover.Endpoint.Set
import Failover.Url.Origin

/-! The walk of one call over the endpoints. It starts at one endpoint of the set, moves on in
ring order to endpoints it has not tried, and follows redirects to any address. An address outside
the set joins the walk for the rest of it, behind the endpoints of the set. -/
namespace Failover

/-- Where a walk is asked to go. -/
inductive Relocation where
  | next
  | redirect (address : Url)
  deriving DecidableEq, Repr

/-- Where a walk has gone: the endpoint, and after a redirect the path below it. -/
structure Selection where
  index : Nat
  base : Url
  path : Option String
  deriving DecidableEq, Repr

/-- A walk: the endpoints added to the set, which of all of them have been tried, the one it stands
at, and the moves made. -/
structure Selector where
  set : EndpointSet
  added : List Url
  visited : List Bool
  current : Nat
  relocations : Nat
  limit : Nat

namespace Selector

/-- A walk from an endpoint of the set, counted round the ring. -/
def startingAt (set : EndpointSet) (start limit : Nat) : Selector :=
  let current := start % set.size
  { set, added := [], visited := (List.replicate set.size false).set current true, current,
    relocations := 0, limit }

/-- Whether an index is one of the set's own. -/
def isKnown (w : Selector) (index : Nat) : Bool := index < w.set.size

def url? (w : Selector) (index : Nat) : Option Url := (w.set.urls ++ w.added)[index]?

/-- The base URL the walk stands at. -/
def currentUrl (w : Selector) : Url :=
  match w.url? w.current with
  | some u => u
  | none => w.set.urls.head w.set.nonempty

def visitedCount (w : Selector) : Nat := w.visited.count true

def isVisited (w : Selector) (index : Nat) : Bool := w.visited[index]? == some true

/-- The endpoints of the set in ring order after the current one; after an added one from the
first. -/
def ring (w : Selector) : List Nat :=
  let start := if w.isKnown w.current then w.current else w.set.size - 1
  (List.range w.set.size).map fun step => (start + step + 1) % w.set.size

/-- The next endpoint of the set that has not been tried. -/
def next? (w : Selector) : Option Nat := w.ring.find? (!w.isVisited ·)

/-- The place of an added endpoint with the origin of `u`. -/
def addedFor? (w : Selector) (u : Url) : Option Nat :=
  (w.added.findIdx? (·.sameOrigin u)).map (w.set.size + ·)

/-- The endpoint of an address and the path below it, with the walk that knows the endpoint: one of
the set, one added before, or a new one. -/
def locate (w : Selector) (u : Url) : Selector × Nat × String :=
  match w.set.resolve u with
  | some (index, path) => (w, index, path)
  | none =>
    let path := String.ofList u.pathAndQuery
    match w.addedFor? u with
    | some index => (w, index, path)
    | none =>
      ({ w with added := w.added ++ [u.root], visited := w.visited ++ [false] },
        w.set.size + w.added.length, path)

/-- The walk after a move to an endpoint that it knows. -/
def moveTo (w : Selector) (index : Nat) : Selector :=
  { w with
    relocations := w.relocations + 1
    visited := w.visited.set index true
    current := index }

/-- What a walk that has just moved tells of it. -/
def selection (w : Selector) (path : Option String) : Selection := ⟨w.current, w.currentUrl, path⟩

/-- Moves on, unless as many moves have been made as are allowed, or none of the set is left. -/
def relocate (w : Selector) (aim : Relocation) : Except SelectionError (Selection × Selector) :=
  if w.limit ≤ w.relocations then .error (.limitExceeded w.limit)
  else
    match aim with
    | .next =>
      match w.next? with
      | some index =>
        let moved := w.moveTo index
        .ok (moved.selection none, moved)
      | none => .error .noneRemaining
    | .redirect address =>
      let (known, index, path) := w.locate address
      let moved := known.moveTo index
      .ok (moved.selection (some path), moved)

end Selector
end Failover
