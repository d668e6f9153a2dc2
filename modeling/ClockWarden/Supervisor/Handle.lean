import ClockWarden.Host.Call
import ClockWarden.Supervisor.Failure

/-! The handle of a managed process: who it is, what it was started with, and how far it is gone. -/

namespace ClockWarden.Supervisor

open Host

/-- How far a managed process is gone. A process that has ended stays with the host until it is
reaped, and its group may outlive it. -/
inductive Phase where
  /-- The leader has not been reaped. -/
  | unreaped
  /-- The leader has been reaped; members of its group may be left. -/
  | reaped (status : ExitStatus)
  /-- The leader has been reaped, and its group has been seen empty or has been killed. -/
  | retired (status : ExitStatus)
deriving DecidableEq, Repr

/-- How the leader ended, once it has been reaped. -/
def Phase.status? : Phase → Option ExitStatus
  | .unreaped => none
  | .reaped status => some status
  | .retired status => some status

/-- Whether nothing is left to be stopped. -/
def Phase.isRetired : Phase → Bool
  | .retired _ => true
  | _ => false

/-- A managed process: what is known about one that was spawned. -/
structure Handle where
  pid : Pid
  environment : Environment
  fakeTime : Option FakeTime
  startedAt : Calendar.Timestamp
  phase : Phase := .unreaped
deriving DecidableEq

namespace Handle

/-- The process leads its group, so the group bears its number. -/
def group (handle : Handle) : Pid := handle.pid

/-- The leader has been reaped. A status that is known already is kept. -/
def reap (handle : Handle) (status : ExitStatus) : Handle :=
  match handle.phase with
  | .unreaped => { handle with phase := .reaped status }
  | _ => handle

/-- Nothing is left of the group. -/
def retire (handle : Handle) (status : ExitStatus) : Handle :=
  { handle with phase := .retired status }

/-- The failure to deliver a signal to the group of a process. -/
def undelivered (handle : Handle) (signal : Signal) (errno : Errno) : Failure :=
  .termination handle.pid
    (signal.name ++ " delivery failed: " ++ errnoName errno ++ ": " ++ errnoText errno)

/-- A signal that finds nobody has done its work. -/
def delivered (handle : Handle) (signal : Signal) : Except Errno Unit → Except Failure Unit
  | .ok () => .ok ()
  | .error errno =>
    if errno = Errno.noSuchProcess then .ok () else .error (handle.undelivered signal errno)

end Handle

end ClockWarden.Supervisor
