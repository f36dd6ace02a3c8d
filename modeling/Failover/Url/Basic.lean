import Failover.Url.Host
import Failover.Url.Path
import Failover.Text.Numeral

/-! URLs. A URL is kept as its components, each already in normal form, and its text is these
components put together. -/
namespace Failover

/-- The part of a URL between the two slashes and the path. -/
structure Authority where
  username : List Char
  password : Option (List Char)
  host : Host
  port : Option Nat
  deriving DecidableEq, Repr

/-- A URL by its components, every one of them as it is written. -/
structure Url where
  scheme : List Char
  authority : Option Authority
  path : Path
  query : Option (List Char)
  fragment : Option (List Char)
  deriving DecidableEq, Repr

/-- What a scheme asks of the rest of a URL. -/
def SchemeKind.of (scheme : List Char) : SchemeKind :=
  if scheme = "file".toList then .file
  else if ["http", "https", "ws", "wss", "ftp"].any (·.toList == scheme) then .network
  else .other

/-- The port that a scheme uses unless told otherwise. -/
def defaultPort? (scheme : List Char) : Option Nat :=
  if ["http", "ws"].any (·.toList == scheme) then some 80
  else if ["https", "wss"].any (·.toList == scheme) then some 443
  else if scheme = "ftp".toList then some 21
  else none

namespace Authority

/-- User name and password with the mark behind them, if there are any. -/
def credentials (a : Authority) : List Char :=
  match a.password with
  | some password => a.username ++ ':' :: password ++ ['@']
  | none => if a.username.isEmpty then [] else a.username ++ ['@']

def portChars (a : Authority) : List Char :=
  match a.port with
  | some port => ':' :: (Numeral.decimal port).toList
  | none => []

def chars (a : Authority) : List Char := a.credentials ++ a.host.chars ++ a.portChars

end Authority

namespace Url

def kind (u : Url) : SchemeKind := .of u.scheme

/-- Whether the URL has no root that a path could be resolved against. -/
def isRootless (u : Url) : Bool :=
  match u.path with
  | .rooted segments => u.authority.isNone && segments.isEmpty
  | .rootless _ => true

/-- What stands between scheme and path. A path that starts with two slashes is kept from being
read as an authority. -/
def middle (u : Url) : List Char :=
  match u.authority with
  | some a => '/' :: '/' :: a.chars
  | none => if u.path.startsDouble then ['/', '.'] else []

/-- A component with its mark in front, or nothing. -/
def marked (mark : Char) : Option (List Char) → List Char
  | some cs => mark :: cs
  | none => []

/-- Path and query. -/
def pathAndQuery (u : Url) : List Char := u.path.chars ++ marked '?' u.query

/-- Everything but the fragment. -/
def withoutFragment (u : Url) : List Char :=
  u.scheme ++ ':' :: u.middle ++ u.pathAndQuery

def chars (u : Url) : List Char := u.withoutFragment ++ marked '#' u.fragment

/-- The text of the URL. -/
def text (u : Url) : String := String.ofList u.chars

/-- The URL without path, query and fragment: the root under its authority. -/
def root (u : Url) : Url :=
  { u with
    path := match u.kind with
      | .network | .file => .rooted [[]]
      | .other => .rooted (if u.authority.isNone && u.path.startsDouble then [['.']] else [])
    query := none
    fragment := none }

/-- The text without slashes at its end. -/
def trimmed (u : Url) : List Char := (u.chars.reverse.dropWhile (· == '/')).reverse

/-- The text of a base with a path put below it, one slash between them. -/
def under (base : Url) (path : List Char) : List Char :=
  base.trimmed ++ '/' :: path.dropWhile (· == '/')

end Url
end Failover
