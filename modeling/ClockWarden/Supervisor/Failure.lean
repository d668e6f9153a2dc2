import ClockWarden.FakeTime
import ClockWarden.Host.Error

/-! How a call on the supervisor fails. Only a refused request is the caller's fault. -/

namespace ClockWarden.Supervisor

/-- Why a request was refused before anything was done. -/
inductive BadRequest where
  | fakeTime (refusal : FakeTime.Refusal)
  | other (details : String)
deriving DecidableEq, Repr

/-- The words of a refused request. -/
def BadRequest.message : BadRequest → String
  | .fakeTime refusal => refusal.message
  | .other details => details

/-- Why a call on the supervisor failed. -/
inductive Failure where
  | badRequest (cause : BadRequest)
  | launch (program : String) (cause : Host.Error)
  | termination (pid : UInt32) (reason : String)
  | host (cause : Host.Error)
deriving DecidableEq, Repr

namespace Failure

/-- The words of a failure. -/
def message : Failure → String
  | .badRequest cause => cause.message
  | .launch program cause => "Failed to launch managed process " ++ program ++ ": " ++ cause.message
  | .termination pid reason =>
    "Failed to terminate managed process " ++ toString pid ++ ": " ++ reason
  | .host cause => "I/O error: " ++ cause.message

/-- Whether the caller could have known better. -/
def isCallersFault : Failure → Bool
  | .badRequest _ => true
  | _ => false

/-- What the host answered, where a failure comes from the host. -/
def hostCause? : Failure → Option Host.Error
  | .launch _ cause => some cause
  | .host cause => some cause
  | _ => none

/-- The text of a failure in the report of a failed run. -/
def report : Failure → String
  | .badRequest cause =>
    "InvalidRequest \x7b details: " ++ Text.quoted cause.message ++ " \x7d"
  | .launch program cause =>
    "LaunchFailure \x7b program: " ++ Text.quoted program ++ ", source: " ++ cause.report ++ " \x7d"
  | .termination pid reason =>
    "TerminationFailed \x7b pid: " ++ toString pid ++ ", reason: " ++ Text.quoted reason ++ " \x7d"
  | .host cause => "IoError(" ++ cause.report ++ ")"

end Failure

end ClockWarden.Supervisor
