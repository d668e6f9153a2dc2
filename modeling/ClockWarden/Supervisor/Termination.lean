import ClockWarden.Supervisor.Handle
import ClockWarden.Supervisor.Machine

/-! Stopping a managed process. Its group is asked to end; it has until a deadline to do so, the leader
first and the rest of the group after it; what is left at the deadline is killed. The group is asked
even where the leader has ended already, for it may have left members behind. -/

namespace ClockWarden.Supervisor

open Host

namespace Termination

/-- What is being done to stop a process. -/
inductive Stage where
  /-- The clock is read, for the deadline. -/
  | beginning
  /-- The group is asked to end. -/
  | asking (deadline : Instant)
  /-- The leader has until the deadline. -/
  | awaiting (deadline : Instant)
  /-- The leader ignored the request, and its group is killed. -/
  | forcing (deadline : Instant)
  /-- The killed leader is reaped. -/
  | reaping (deadline : Instant)
  /-- The leader has been reaped; the group is looked at. -/
  | probing (deadline : Instant) (status : ExitStatus)
  /-- The group has members; the clock is read again. -/
  | checking (deadline : Instant) (status : ExitStatus)
  /-- There is time left; the group gets some of it. -/
  | resting (deadline : Instant) (status : ExitStatus)
  /-- The group outlived its leader, and is killed. -/
  | clearing (status : ExitStatus)
deriving DecidableEq

end Termination

/-- A managed process that is being terminated. -/
structure Termination where
  handle : Handle
  grace : Duration
  stage : Termination.Stage := .beginning
deriving DecidableEq

namespace Termination

/-- How an attempt to stop a process came out. -/
inductive Outcome where
  | stopped (status : ExitStatus)
  | failed (failure : Failure)
  /-- The clock cannot count as far as the deadline. -/
  | overflowed
deriving DecidableEq

/-- What an attempt leaves: the handle, and how it came out. -/
abbrev Result := Handle × Outcome

def target : String := "supervisor::process"

/-- The log entry of a leader that ignored the request to end. -/
def ignored (t : Termination) : Log.Entry :=
  ⟨.warn, target, "🔨 Managed process " ++ toString t.handle.pid ++ " ignored SIGTERM for " ++
    t.grace.text ++ ", sending SIGKILL", none⟩

/-- The log entry of a group that outlived its leader. -/
def outlived (t : Termination) : Log.Entry :=
  ⟨.warn, target, "🔨 Process group " ++ toString t.handle.pid ++
    " outlived its leader, sending SIGKILL", none⟩

/-- How often a group is looked at. -/
def pollInterval : Duration := .ofMillis 20

/-- The call that a stage makes. -/
def call (t : Termination) : Call :=
  match t.stage with
  | .beginning => .readClock
  | .asking _ => .signalGroup t.handle.group .terminate
  | .awaiting deadline => .awaitExitUntil t.handle.pid deadline
  | .forcing _ => .signalGroup t.handle.group .kill
  | .reaping _ => .awaitExit t.handle.pid
  | .probing .. => .probeGroup t.handle.group
  | .checking .. => .readClock
  | .resting .. => .sleep pollInterval
  | .clearing _ => .signalGroup t.handle.group .kill

/-- Goes on to a stage. -/
def goOn (t : Termination) (stage : Stage) : Turn Termination Result :=
  .goOn [] { t with stage }

/-- Gives up: nothing more is sent, and the process stays managed. -/
def fail (t : Termination) (failure : Failure) : Turn Termination Result :=
  .finish [] (t.handle, .failed failure)

/-- The group is gone. -/
def succeed (t : Termination) (status : ExitStatus) : Turn Termination Result :=
  .finish [] (t.handle.retire status, .stopped status)

/-- The deadline follows from the time at the beginning. -/
def timed (t : Termination) (now : Instant) : Turn Termination Result :=
  match now.after? t.grace with
  | none => .finish [] (t.handle, .overflowed)
  | some deadline => t.goOn (.asking deadline)

/-- The group has been asked to end. A leader that has been reaped is not waited for. -/
def asked (t : Termination) (deadline : Instant) (sent : Except Errno Unit) : Turn Termination Result :=
  match t.handle.delivered .terminate sent with
  | .error failure => t.fail failure
  | .ok () =>
    match t.handle.phase.status? with
    | some status => t.goOn (.probing deadline status)
    | none => t.goOn (.awaiting deadline)

/-- The leader ended; the rest of its group is next. -/
def leaderEnded (t : Termination) (deadline : Instant) :
    Except Error ExitStatus → Turn Termination Result
  | .error cause => t.fail (.host cause)
  | .ok status => { t with handle := t.handle.reap status }.goOn (.probing deadline status)

/-- The leader has been waited for. -/
def awaited (t : Termination) (deadline : Instant) :
    Option (Except Error ExitStatus) → Turn Termination Result
  | some ended => t.leaderEnded deadline ended
  | none => (t.goOn (.forcing deadline)).after [t.ignored]

/-- The leader has been killed, with its group. -/
def forced (t : Termination) (deadline : Instant) (sent : Except Errno Unit) : Turn Termination Result :=
  match t.handle.delivered .kill sent with
  | .error failure => t.fail failure
  | .ok () => t.goOn (.reaping deadline)

/-- The group has been looked at. -/
def probed (t : Termination) (deadline : Instant) (status : ExitStatus) :
    Except Errno Unit → Turn Termination Result
  | .ok () => t.goOn (.checking deadline status)
  | .error _ => t.succeed status

/-- The time has been read while the group had members. -/
def checked (t : Termination) (deadline : Instant) (status : ExitStatus) (now : Instant) :
    Turn Termination Result :=
  if deadline ≤ now then (t.goOn (.clearing status)).after [t.outlived]
  else t.goOn (.resting deadline status)

/-- The group that outlived its leader has been killed. -/
def cleared (t : Termination) (status : ExitStatus) (sent : Except Errno Unit) :
    Turn Termination Result :=
  match t.handle.delivered .kill sent with
  | .error failure => t.fail failure
  | .ok () => t.succeed status

/-- What comes after an answer of the host. -/
def receive (t : Termination) (answer : t.call.Answer) : Turn Termination Result :=
  match t, answer with
  | ⟨handle, grace, .beginning⟩, now => timed ⟨handle, grace, .beginning⟩ now
  | ⟨handle, grace, .asking deadline⟩, sent => asked ⟨handle, grace, .asking deadline⟩ deadline sent
  | ⟨handle, grace, .awaiting deadline⟩, ended =>
    awaited ⟨handle, grace, .awaiting deadline⟩ deadline ended
  | ⟨handle, grace, .forcing deadline⟩, sent =>
    forced ⟨handle, grace, .forcing deadline⟩ deadline sent
  | ⟨handle, grace, .reaping deadline⟩, ended =>
    leaderEnded ⟨handle, grace, .reaping deadline⟩ deadline ended
  | ⟨handle, grace, .probing deadline status⟩, found =>
    probed ⟨handle, grace, .probing deadline status⟩ deadline status found
  | ⟨handle, grace, .checking deadline status⟩, now =>
    checked ⟨handle, grace, .checking deadline status⟩ deadline status now
  | ⟨handle, grace, .resting deadline status⟩, _ =>
    goOn ⟨handle, grace, .resting deadline status⟩ (.probing deadline status)
  | ⟨handle, grace, .clearing status⟩, sent =>
    cleared ⟨handle, grace, .clearing status⟩ status sent

/-- How processes are stopped. -/
def machine : Machine Termination Result := ⟨call, receive⟩

/-- The first turn of stopping a process. -/
def start (handle : Handle) (grace : Duration) : Turn Termination Result :=
  .goOn [] ⟨handle, grace, .beginning⟩

end Termination

end ClockWarden.Supervisor
