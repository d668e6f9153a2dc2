import ClockWarden.Supervisor.Handle
import ClockWarden.Supervisor.Machine

/-! Looking whether a managed process still runs. One that has ended is reaped by that; one that the
host knows nothing about does not run. -/

namespace ClockWarden.Supervisor

open Host

/-- What the host's answer says about a process, and whether it runs. -/
def Handle.inspected (handle : Handle) : Except Error (Option ExitStatus) → Handle × Bool
  | .ok none => (handle, true)
  | .ok (some status) => (handle.reap status, false)
  | .error _ => (handle, false)

namespace Inspection

/-- How it is told whether a process is running. -/
def machine : Machine Handle (Handle × Bool) where
  call handle := .pollExit handle.pid
  receive handle found := .finish [] (handle.inspected found)

/-- The first turn of looking at a process. One that has been reaped needs no look. -/
def start (handle : Handle) : Turn Handle (Handle × Bool) :=
  match handle.phase with
  | .unreaped => .goOn [] handle
  | _ => .finish [] (handle, false)

end Inspection

end ClockWarden.Supervisor
