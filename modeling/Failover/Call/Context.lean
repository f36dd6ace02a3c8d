/-! A value that a caller hands to a call for its observers. The call never looks into it. -/
namespace Failover

/-- The values a caller may hand over, or none. -/
inductive CallContext where
  | empty
  | text (value : String)
  | number (value : Nat)
  deriving DecidableEq, Repr

namespace CallContext

def isEmpty (c : CallContext) : Bool := c == .empty

/-- The value, if it is a text. -/
def text? : CallContext → Option String
  | .text value => some value
  | _ => none

/-- The value, if it is a number. -/
def number? : CallContext → Option Nat
  | .number value => some value
  | _ => none

/-- A description that does not show the value. -/
def description (c : CallContext) : String :=
  if c.isEmpty then "CallContext(\"<empty>\")" else "CallContext(\"<opaque>\")"

end CallContext
end Failover
