import Failover.Url.Percent

/-! The path of a URL: segments below the root, or a text that has no root. Dot segments are
resolved while a path is read, so that a read path holds none. -/
namespace Failover

/-- The kinds of scheme that are read by rules of their own. -/
inductive SchemeKind where
  | network
  | file
  | other
  deriving DecidableEq, Repr

/-- Whether `c` separates segments under a scheme of this kind. -/
def SchemeKind.isSlash (kind : SchemeKind) (c : Char) : Bool :=
  c == '/' || (c == '\\' && kind != .other)

/-- The path of a URL. -/
inductive Path where
  | rooted (segments : List (List Char))
  | rootless (text : List Char)
  deriving DecidableEq, Repr

namespace Path

/-- Segments as text, a slash in front of each. -/
def join (segments : List (List Char)) : List Char := segments.flatMap ('/' :: ·)

def chars : Path → List Char
  | .rooted segments => join segments
  | .rootless text => text

/-- The segments below the root. -/
def segments : Path → List (List Char)
  | .rooted segments => segments
  | .rootless _ => []

/-- Whether the text of the path starts with two slashes. -/
def startsDouble : Path → Bool
  | .rooted ([] :: _ :: _) => true
  | _ => false

def lower (cs : List Char) : List Char := cs.map Char.toLower

/-- A segment that stands for its own place; the dot may be escaped. -/
def isDot (segment : List Char) : Bool :=
  [".".toList, "%2e".toList].contains (lower segment)

/-- A segment that stands for the place above. -/
def isDoubleDot (segment : List Char) : Bool :=
  ["..".toList, ".%2e".toList, "%2e.".toList, "%2e%2e".toList].contains (lower segment)

/-- A letter and a colon or bar: the drive of a file path. -/
def isDrive : List Char → Bool
  | [letter, mark] => letter.isAlpha && (mark == ':' || mark == '|')
  | _ => false

/-- One level up from a stack of segments, the last one on top; a drive is never left. -/
def up : List (List Char) → List (List Char)
  | [] => []
  | top :: below => if isDrive top then top :: below else below

/-- A segment as it is kept: escaped, and a drive in a file path with a colon. -/
def kept (kind : SchemeKind) (segment : List Char) : List Char :=
  if kind = .file && isDrive segment then segment.take 1 ++ [':']
  else Percent.encode Percent.inPath segment

/-- The stack after one more segment; a dot segment at the end leaves an empty one. -/
def push (kind : SchemeKind) (stack : List (List Char)) (segment : List Char) (last : Bool) :
    List (List Char) :=
  if isDoubleDot segment then (if last then [] :: up stack else up stack)
  else if isDot segment then (if last then [] :: stack else stack)
  else kept kind segment :: stack

/-- The stack after all these segments. -/
def pushAll (kind : SchemeKind) (stack : List (List Char)) : List (List Char) → List (List Char)
  | [] => stack
  | [segment] => push kind stack segment true
  | segment :: rest => pushAll kind (push kind stack segment false) rest

/-- A file path begins with one slash only. -/
def collapse : List (List Char) → List (List Char)
  | [] :: next :: rest => collapse (next :: rest)
  | segments => segments

/-- The segments of `text`, which follows the root, below those of `base`. -/
def descend (kind : SchemeKind) (base : List (List Char)) (text : List Char) :
    List (List Char) :=
  let segments := (pushAll kind base.reverse (text.splitOnP (kind.isSlash ·))).reverse
  if kind = .file then collapse segments else segments

end Path
end Failover
