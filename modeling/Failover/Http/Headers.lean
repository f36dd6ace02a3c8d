import Failover.Text.Utf8

/-! Header fields. Names are tokens in lower case; a value is any bytes but control characters, and
is text only if it is visible ASCII with blanks and tabs. One name may have several values, in the
order in which they were added. -/
namespace Failover

/-- Whether `c` may stand in a method or header name. -/
def isTokenChar (c : Char) : Bool :=
  c.isAlphanum || "!#$%&'*+-.^_`|~".toList.contains c

def isToken (s : String) : Bool := !s.isEmpty && s.toList.all isTokenChar

/-- One header field, its name in lower case. -/
structure Header where
  name : String
  value : List UInt8
  deriving DecidableEq, Repr

/-- The fields of a message, in the order in which they were added. -/
abbrev Headers := List Header

namespace Header

/-- Whether bytes may be a header value: no control character but the tab. -/
def isValue (bs : List UInt8) : Bool := bs.all fun b => (32 ≤ b && b != 127) || b == 9

/-- The field of a name and a value, if both are allowed. -/
def make? (name : String) (value : List UInt8) : Option Header :=
  if isToken name && isValue value then some ⟨name.map Char.toLower, value⟩ else none

/-- A value as text: all of it visible ASCII, blank or tab. -/
def valueText? (value : List UInt8) : Option String :=
  if value.all fun b => (32 ≤ b && b < 127) || b == 9 then
    some (String.ofList (value.map fun b => Char.ofNat b.toNat))
  else none

end Header

namespace Headers

/-- The first value of a name. -/
def get? (hs : Headers) (name : String) : Option (List UInt8) :=
  (hs.find? (·.name == name)).map (·.value)

/-- One more value of a name. -/
def append (hs : Headers) (h : Header) : Headers := hs ++ [h]

/-- The one value of a name from now on. -/
def insert (hs : Headers) (h : Header) : Headers := hs.filter (·.name != h.name) ++ [h]

/-- All fields by name, the values of one name in order. -/
def sorted (hs : Headers) : Headers := hs.mergeSort fun a b => a.name ≤ b.name

end Headers
end Failover
