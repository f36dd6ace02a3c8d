import Failover.Url.Parser

/-! The origin of a URL: scheme, host and port of a network URL. A `blob` URL has the origin of the
URL in its path; any other has none that could equal another. -/
namespace Failover

structure Origin where
  scheme : List Char
  host : Host
  port : Nat
  deriving DecidableEq, Repr

namespace Url

/-- The origin, looking through at most `depth` URLs inside paths. -/
def originWithin (depth : Nat) (u : Url) : Option Origin :=
  match u.kind, u.authority, defaultPort? u.scheme with
  | .network, some a, some port => some ⟨u.scheme, a.host, a.port.getD port⟩
  | _, _, _ =>
    match depth with
    | 0 => none
    | depth + 1 =>
      if u.scheme = "blob".toList then
        match read none u.path.chars with
        | .ok inner => originWithin depth inner
        | .error _ => none
      else none

/-- The origin, if it can equal another; each URL inside a path is shorter than the path. -/
def origin? (u : Url) : Option Origin := originWithin (u.path.chars.length + 1) u

/-- Whether two URLs have one origin. -/
def sameOrigin (a b : Url) : Bool := a.origin?.isSome && a.origin? == b.origin?

end Url
end Failover
