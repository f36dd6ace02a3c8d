import Failover.Url.Basic

/-! Reading a URL, alone or against a base. A text falls into a main part, a query and a fragment;
the main part names a scheme and an authority or takes them from the base, and ends in a path. -/
namespace Failover

/-- The parts of a text that is to be read as a URL, none of them escaped yet. -/
structure Reference where
  main : List Char
  query : Option (List Char)
  fragment : Option (List Char)

namespace Reference

def isBlank (c : Char) : Bool := c.toNat ≤ 32

/-- The text without blanks and control characters at its ends, and without any tab or line end. -/
def clean (cs : List Char) : List Char :=
  (((cs.dropWhile isBlank).reverse.dropWhile isBlank).reverse).filter
    fun c => !(c == '\t' || c == '\n' || c == '\r')

/-- What stands before the first `mark` and, if there is one, after it. -/
def cut (mark : Char) (cs : List Char) : List Char × Option (List Char) :=
  (cs.takeWhile (· != mark), match cs.dropWhile (· != mark) with
    | [] => none
    | _ :: after => some after)

def of (cs : List Char) : Reference :=
  let (front, fragment) := cut '#' cs
  let (main, query) := cut '?' front
  ⟨main, query, fragment⟩

/-- Whether nothing follows the main part. -/
def endsAtMain (r : Reference) : Bool := r.query.isNone && r.fragment.isNone

def isSchemeChar (c : Char) : Bool := c.isAlphanum || c == '+' || c == '-' || c == '.'

/-- The scheme in lower case and what follows its colon. -/
def scheme? (main : List Char) : Option (List Char × List Char) :=
  match main with
  | [] => none
  | c :: _ =>
    if !c.isAlpha then none
    else match main.dropWhile isSchemeChar with
      | ':' :: rest => some (Path.lower (main.takeWhile isSchemeChar), rest)
      | _ => none

end Reference

namespace Authority

/-- Splits at the last `@`; none if there is no such mark. -/
def userinfo? (cs : List Char) : Option (List Char) × List Char :=
  match cs.reverse.dropWhile (· != '@') with
  | [] => (none, cs)
  | _ :: before => (some before.reverse, (cs.reverse.takeWhile (· != '@')).reverse)

/-- Host and what follows the colon after it; a colon between brackets belongs to the host. -/
def splitPort (inside : Bool) : List Char → List Char × Option (List Char)
  | [] => ([], none)
  | c :: rest =>
    if c = ':' ∧ !inside then ([], some rest)
    else
      let inside := if c = '[' then true else if c = ']' then false else inside
      let (host, port) := splitPort inside rest
      (c :: host, port)

/-- The port that a text starts with, if it is not the scheme's own, and the rest, which may only
begin with a backslash. -/
def readPort (scheme : List Char) (cs : List Char) : Except UrlError (Option Nat × List Char) :=
  let digits := cs.takeWhile Char.isDigit
  let rest := cs.dropWhile Char.isDigit
  let number := Numeral.value 10 digits
  if 65535 < number then .error .badPort
  else if !rest.isEmpty && rest.head? != some '\\' then .error .badPort
  else if digits.isEmpty || some number = defaultPort? scheme then .ok (none, rest)
  else .ok (some number, rest)

/-- The authority of a URL and what follows it within `cs`, which holds everything up to the path.
`ends` says that nothing at all follows `cs`. -/
def read (scheme cs : List Char) (ends : Bool) : Except UrlError (Authority × List Char) := do
  let kind := SchemeKind.of scheme
  let (user, place) := userinfo? cs
  if user = some [] && place.isEmpty && !ends then throw .emptyHost
  let (name, word) := Reference.cut ':' (user.getD [])
  let username := Percent.encode Percent.inUserinfo name
  let password := match word with
    | none | some [] => none
    | some cs => some (Percent.encode Percent.inUserinfo cs)
  let (hostText, portText) := splitPort false place
  if kind = .network && hostText.isEmpty then throw .emptyHost
  let host ← if kind = .network then Host.network hostText else Host.other hostText
  if host = Host.absent && (portText.isSome || !username.isEmpty || password.isSome) then
    throw .emptyHost
  let (port, rest) ← match portText with
    | none => pure (none, [])
    | some digits => readPort scheme digits
  return (⟨username, password, host, port⟩, rest)

end Authority

namespace Url

/-- Query and fragment as they are written under a scheme of this kind. -/
def withTail (u : Url) (r : Reference) : Url :=
  let set := if u.kind = .other then Percent.inQuery else Percent.inNetworkQuery
  { u with
    query := r.query.map (Percent.encode set)
    fragment := r.fragment.map (Percent.encode Percent.inFragment) }

/-- The path that follows an authority: under the root, which only a scheme of another kind may
leave out. -/
def pathAfter (kind : SchemeKind) (cs : List Char) : Path :=
  match cs with
  | [] => if kind = .other then .rooted [] else .rooted [[]]
  | c :: rest => .rooted (Path.descend kind [] (if kind.isSlash c then rest else cs))

/-- A URL whose authority starts at `cs`. -/
def readAuthority (scheme : List Char) (r : Reference) (cs : List Char) : Except UrlError Url := do
  let kind := SchemeKind.of scheme
  let slash (c : Char) : Bool := kind.isSlash c
  let after := cs.dropWhile (!slash ·)
  let (authority, rest) ← Authority.read scheme (cs.takeWhile (!slash ·))
    (after.isEmpty && r.endsAtMain)
  return withTail ⟨scheme, some authority, pathAfter kind (rest ++ after), none, none⟩ r

/-- The URL for a text that changes no path: the base with another query or fragment. -/
def sameDocument (base : Url) (r : Reference) : Url :=
  let u := withTail base r
  if r.query.isSome then u else { u with query := base.query }

/-- A text without scheme against a base under a root, except under the file scheme. -/
def readRelative (base : Url) (r : Reference) : Except UrlError Url :=
  match r.main with
  | [] => .ok (sameDocument base r)
  | c :: rest =>
    let anySlash (c : Char) : Bool := c == '/' || c == '\\'
    if anySlash c then
      let slashes := r.main.takeWhile anySlash
      if 2 ≤ slashes.length then
        readAuthority base.scheme r
          (if slashes.take 2 = ['/', '/'] then r.main.drop 2 else r.main.drop slashes.length)
      else .ok (withTail { base with path := .rooted (Path.descend base.kind [] rest) } r)
    else
      .ok (withTail
        { base with path := .rooted (Path.descend base.kind base.path.segments.dropLast r.main) } r)

/-- The host of a file URL at the start of `cs`, and the path after it. A drive is no host, and this
machine's own name is left out. -/
def fileHost (cs : List Char) : Except UrlError (Host × List Char) := do
  let slash (c : Char) : Bool := SchemeKind.file.isSlash c
  let name := cs.takeWhile (!slash ·)
  let rest := cs.dropWhile (!slash ·)
  if Path.isDrive name then return (Host.absent, cs)
  if name.isEmpty then return (Host.absent, rest)
  let host ← Host.network name
  return (if host = .domain "localhost".toList then Host.absent else host, rest)

/-- A file URL with this host and path. -/
def onFile (r : Reference) (host : Host) (segments : List (List Char)) : Url :=
  withTail ⟨"file".toList, some ⟨[], none, host, none⟩, .rooted segments, none, none⟩ r

def startsWithDrive (cs : List Char) : Bool :=
  Path.isDrive (cs.takeWhile (!SchemeKind.file.isSlash ·))

/-- The host of a file URL. -/
def fileHostOf (base : Url) : Host := (base.authority.map (·.host)).getD Host.absent

/-- The base path of a file URL without its last segment, which stays if it is a drive. -/
def folder (base : Url) : List (List Char) :=
  (Path.up base.path.segments.reverse).reverse

/-- A text under the file scheme, against a base of that scheme if there is one. -/
def readFile (base : Option Url) (r : Reference) (main : List Char) : Except UrlError Url :=
  let slash (c : Char) : Bool := SchemeKind.file.isSlash c
  match main, base with
  | c :: rest, _ =>
    if slash c then
      if rest.head?.any slash then do
        let (host, after) ← fileHost (rest.drop 1)
        let path := if after.head?.any slash then after.drop 1 else after
        let dropped := host != Host.absent && startsWithDrive path
        return onFile r (if dropped then Host.absent else host) (Path.descend .file [] path)
      else
        match base with
        | some b =>
          if startsWithDrive rest then .ok (onFile r Host.absent (Path.descend .file [] rest))
          else if b.path.segments.head?.any Path.isDrive then
            .ok (onFile r Host.absent (Path.descend .file (b.path.segments.take 1) rest))
          else .ok (onFile r (fileHostOf b) (Path.descend .file [] rest))
        | none => .ok (onFile r Host.absent (Path.descend .file [] rest))
    else
      match base with
      | some b =>
        if startsWithDrive main then .ok (onFile r Host.absent (Path.descend .file [] main))
        else .ok (onFile r (fileHostOf b) (Path.descend .file (folder b) main))
      | none => .ok (onFile r Host.absent (Path.descend .file [] main))
  | [], some b => .ok (sameDocument b r)
  | [], none => .ok (onFile r Host.absent [[]])

/-- A text with a scheme. -/
def readAbsolute (base : Option Url) (scheme rest : List Char) (r : Reference) :
    Except UrlError Url :=
  match SchemeKind.of scheme with
  | .file => readFile (base.filter (·.scheme == scheme)) r rest
  | .network =>
    let slashes := rest.takeWhile fun c => c == '/' || c == '\\'
    match base.filter (·.scheme == scheme) with
    | some b =>
      if slashes.length < 2 then readRelative b { r with main := rest }
      else readAuthority scheme r (rest.drop slashes.length)
    | none => readAuthority scheme r (rest.drop slashes.length)
  | .other =>
    match rest with
    | '/' :: '/' :: after => readAuthority scheme r after
    | '/' :: after =>
      .ok (withTail ⟨scheme, none, .rooted (Path.descend .other [] after), none, none⟩ r)
    | _ =>
      .ok (withTail ⟨scheme, none, .rootless (Percent.encode Percent.isControl rest), none, none⟩ r)

/-- Reads a text as a URL, against a base if there is one. -/
def read (base : Option Url) (cs : List Char) : Except UrlError Url :=
  let r := Reference.of (Reference.clean cs)
  match Reference.scheme? r.main, base with
  | some (scheme, rest), _ => readAbsolute base scheme rest r
  | none, none => .error .relativeWithoutBase
  | none, some b =>
    if b.isRootless then
      if r.main.isEmpty && r.query.isNone && r.fragment.isSome then .ok (sameDocument b r)
      else .error .relativeToRootless
    else if b.kind = .file then readFile (some b) r r.main
    else readRelative b r

/-- The URL that a text spells. -/
def parse (text : String) : Except UrlError Url := read none text.toList

/-- The URL that a text means where `base` is the place it was found at. -/
def resolve (base : Url) (text : String) : Except UrlError Url := read (some base) text.toList

end Url
end Failover
