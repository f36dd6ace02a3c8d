import Failover.Http.Message

/-! A scripted network: for every authority a list of replies, played in order, the last of them
again and again. -/
namespace Failover

/-- A reply to a request: what comes, if anything does, and after how many milliseconds. -/
structure Reply where
  result : Option (Except TransportError Response)
  delayMs : Nat

/-- The replies of every authority. -/
abbrev Script := List (String × List Reply)

namespace Script

/-- What a request to an unknown authority meets. -/
def noRoute (authority : String) : Reply :=
  ⟨some (.error (.connect ("no route to " ++ authority))), 0⟩

/-- The replies left after one was played; the last one stays. -/
def rest : List Reply → List Reply
  | [last] => [last]
  | _ :: replies => replies
  | [] => []

/-- Plays the next reply of an authority. -/
def play (authority : String) : Script → Reply × Script
  | [] => (noRoute authority, [])
  | (name, replies) :: others =>
    if name = authority then (replies.headD (noRoute authority), (name, rest replies) :: others)
    else
      let (reply, others) := play authority others
      (reply, (name, replies) :: others)

/-- The script with other replies for an authority. -/
def replace (script : Script) (authority : String) (replies : List Reply) : Script :=
  (authority, replies) :: script.filter (·.1 != authority)

end Script
end Failover
