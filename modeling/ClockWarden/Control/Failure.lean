import ClockWarden.Control.Body
import ClockWarden.Log.Filter
import ClockWarden.Net.SocketAddress
import ClockWarden.Supervisor.Failure

/-! How the control program fails, and how a failure is answered. A failure of the supervisor speaks
for itself; a refused body has a status of its own. -/

namespace ClockWarden.Control

/-- Why the control program, or a request to it, failed. -/
inductive Failure where
  | supervisor (failure : Supervisor.Failure)
  | badBody (status : Nat) (message : String)
  | startup (address : Net.SocketAddress) (cause : Host.Error)
  | logFilter (cause : Log.BadFilter)
  | host (cause : Host.Error)
deriving DecidableEq

namespace Failure

/-- The words of a failure. -/
def message : Failure → String
  | .supervisor failure => failure.message
  | .badBody _ message => message
  | .startup address cause =>
    "HTTP server startup failed on " ++ address.text ++ ": " ++ cause.message
  | .logFilter cause => "Shared component error: " ++ cause.text
  | .host cause => "I/O error: " ++ cause.message

/-- The status of the answer to a request that failed. -/
def status : Failure → Nat
  | .supervisor failure => if failure.isCallersFault then 400 else 500
  | .badBody status _ => status
  | _ => 500

/-- The words of what lies behind a failure. -/
def source? : Failure → Option String
  | .supervisor failure => failure.hostCause?.map Host.Error.message
  | .badBody .. => none
  | .startup _ cause => some cause.message
  | .logFilter cause => some cause.text
  | .host cause => some cause.message

/-- The text of a failure in the report of a failed run. -/
def report : Failure → String
  | .supervisor failure => "Supervisor(" ++ failure.report ++ ")"
  | .badBody status message =>
    "InvalidBody \x7b status: " ++ toString status ++ ", message: " ++ Text.quoted message ++ " \x7d"
  | .startup address cause =>
    "ServerStartupFailed \x7b addr: " ++ address.text ++ ", source: " ++ cause.report ++ " \x7d"
  | .logFilter cause =>
    "SharedError(InvalidLogFilter \x7b message: " ++ Text.quoted cause.message ++ " \x7d)"
  | .host cause => "IoError(" ++ cause.report ++ ")"

end Failure

end ClockWarden.Control
