/-! The stages of a call. It alternates between attempts and the two ways of going on, until it
succeeds or fails. -/
namespace Failover

inductive Stage where
  | init
  | attempting
  | relocating
  | backingOff
  | succeeded
  | failed
  deriving DecidableEq, Repr

namespace Stage

def name : Stage → String
  | .init => "INIT"
  | .attempting => "ATTEMPTING"
  | .relocating => "RELOCATING"
  | .backingOff => "BACKING_OFF"
  | .succeeded => "SUCCEEDED"
  | .failed => "FAILED"

/-- Whether a call ends in this stage. -/
def isTerminal (s : Stage) : Bool := s == .succeeded || s == .failed

end Stage
end Failover
