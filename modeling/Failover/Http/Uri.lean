import Failover.Url.Parser

/-! The target of a request on the wire: a URL with an authority, without its fragment. What may be
an authority here is narrower than in a URL. -/
namespace Failover

/-- Why a URL cannot be the target of a request. -/
inductive UriError where
  | tooLong
  | badFormat
  | badCharacter
  | badAuthority
  | longScheme
  deriving DecidableEq, Repr

def UriError.message : UriError → String
  | .tooLong => "uri too long"
  | .badFormat => "invalid format"
  | .badCharacter => "invalid uri character"
  | .badAuthority => "invalid authority"
  | .longScheme => "scheme too long"

/-- The target of a request: where it goes, and its text. -/
structure Uri where
  authority : List Char
  text : List Char
  deriving DecidableEq, Repr

namespace Uri

/-- The longest text, in bytes, a fragment counted. -/
def longest : Nat := 65534

/-- The characters of an authority, an escape mark apart. -/
def isAuthorityChar (c : Char) : Bool := c.isAlphanum || "!#$&'()*+,-./:;=?@[]_~".toList.contains c

/-- What an authority has shown so far: colons and escapes since the last `@` or bracket, whether
brackets were opened and closed, and whether the last character was an `@`. -/
structure Scan where
  colons : Nat
  opened : Bool
  closed : Bool
  escaped : Bool
  atSign : Bool

/-- One more character of an authority. -/
def Scan.step (s : Scan) (c : Char) : Except UriError Scan :=
  if c = ':' then
    if 8 ≤ s.colons then .error .badAuthority
    else .ok { s with colons := s.colons + 1, atSign := false }
  else if c = '[' then
    if s.escaped || s.opened then .error .badAuthority
    else .ok { s with opened := true, atSign := false }
  else if c = ']' then
    if !s.opened || s.closed then .error .badAuthority
    else .ok { s with closed := true, colons := 0, escaped := false, atSign := false }
  else if c = '@' then .ok { s with colons := 0, escaped := false, atSign := true }
  else if c = '%' then .ok { s with escaped := true, atSign := false }
  else if isAuthorityChar c then .ok { s with atSign := false }
  else .error .badCharacter

/-- Checks the authority that `cs` is: brackets in pairs, one colon outside of them, escapes only in
front of an `@`, and something behind it. -/
def checkAuthority (cs : List Char) : Except UriError Unit := do
  let s ← cs.foldlM Scan.step ⟨0, false, false, false, false⟩
  if s.opened != s.closed || 1 < s.colons || s.atSign || s.escaped then throw .badAuthority

/-- The target that a URL is. Without a host there is none; what stands in place of an authority is
looked at first. -/
def of (u : Url) : Except UriError Uri :=
  if longest < (String.ofList u.chars).utf8ByteSize then .error .tooLong
  else
    let within (c : Char) : Bool := c != '/' && c != '?' && c != '#'
    match u.authority with
    | some a => do
      if 64 < u.scheme.length then throw .longScheme
      checkAuthority a.chars
      if a.chars.isEmpty then throw .badFormat
      let path := if u.path.chars.isEmpty then ['/'] else u.path.chars
      return ⟨a.chars, u.scheme ++ ':' :: '/' :: '/' :: a.chars ++ path ++ Url.marked '?' u.query⟩
    | none => do
      checkAuthority (u.chars.takeWhile within)
      throw .badFormat

end Uri
end Failover
