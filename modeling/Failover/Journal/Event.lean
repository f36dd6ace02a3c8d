import Failover.Call.Context
import Failover.Call.Result
import Failover.Call.Stage
import Failover.Limiter.Window

/-! Everything that an engine does, in the order in which it does it. Log lines, measurements, the
calls of an observer and the requests sent are all read off this one list. -/
namespace Failover

/-- Who is told about the attempts of an engine: nobody, the log, or a listener. -/
inductive Observer where
  | silent
  | logging
  | listening
  deriving DecidableEq, Repr

/-- One thing that happened. -/
inductive Event where
  | engineReady (service : String) (endpoints : Nat) (limited : Bool) (maxRetries : Nat)
  | limiterCreated (limiter : String) (enabled : Bool)
  | limitSet (limiter : String) (limit : Nat)
  | limitChanged (limiter : String) (before after : Nat) (window : Window)
  | inFlightSet (limiter : String) (count : Nat)
  | permitReleased (limiter : String) (completion : Completion)
  | permitAwaited (limiter : String) (limit : Nat)
  | permitRefused (limiter : String)
  | callOpened (service method path : String)
  | stageEntered (stage : Stage)
  | attemptRefused (attempt : Nat) (endpoint : Url) (error : AdmissionError)
  | attemptStarted (observer : Observer) (context : CallContext) (attempt : Nat)
      (url endpoint : Url)
  | requestSent (request : WireRequest)
  | attemptCompleted (record : AttemptRecord)
  | attemptRecorded (record : AttemptRecord) (latency : Span)
  | attemptFinished (observer : Observer) (context : CallContext) (record : AttemptRecord)
  | waitCapped (requested ceiling : Span)
  | backedOff (delay : Span) (retries : Nat)
  | relocated (before after : Url) (relocations : Nat)
  | callSucceeded (attempts relocations : Nat)
  | callFailed (attempts retries relocations : Nat) (failure : CallFailure)

end Failover
