import ClockWarden.Supervisor.Inspection

/-! Letting go of a handle. A process that was not retired is killed with its whole group, even where
the leader has ended, for it may have left members behind; nobody waits for it, and nobody asks
whether the host complied. -/

namespace ClockWarden.Supervisor

open Host

namespace Discard

/-- What is being done to let go of a process. -/
inductive Stage where
  /-- The leader is looked at. -/
  | polling
  /-- The group is killed. -/
  | killing
  /-- The leader is left to the host. -/
  | releasing
deriving DecidableEq

end Discard

/-- A managed process that is being dropped. -/
structure Discard where
  handle : Handle
  stage : Discard.Stage
deriving DecidableEq

namespace Discard

def target : String := "supervisor::process"

/-- The log entry of a process that was let go of too early. -/
def running (handle : Handle) : Log.Entry :=
  ⟨.warn, target, "⚠️ Managed process " ++ toString handle.pid ++
    " dropped while running, killing its process group", none⟩

/-- The call that a stage makes. -/
def call (d : Discard) : Call :=
  match d.stage with
  | .polling => .pollExit d.handle.pid
  | .killing => .signalGroup d.handle.group .kill
  | .releasing => .abandon d.handle.pid

/-- The leader has been looked at. -/
def polled (handle : Handle) (found : Except Error (Option ExitStatus)) : Turn Discard Unit :=
  match handle.inspected found with
  | (handle, true) => .goOn [running handle] ⟨handle, .killing⟩
  | (handle, false) => .goOn [] ⟨handle, .killing⟩

/-- The group has been killed. A leader that was reaped needs no more. -/
def killed (handle : Handle) : Turn Discard Unit :=
  match handle.phase.status? with
  | some _ => .finish [] ()
  | none => .goOn [] ⟨handle, .releasing⟩

/-- What comes after an answer of the host. -/
def receive (d : Discard) (answer : d.call.Answer) : Turn Discard Unit :=
  match d, answer with
  | ⟨handle, .polling⟩, found => polled handle found
  | ⟨handle, .killing⟩, _ => killed handle
  | ⟨_, .releasing⟩, _ => .finish [] ()

/-- How handles are let go of. -/
def machine : Machine Discard Unit := ⟨call, receive⟩

/-- The first turn of letting go of a handle. -/
def start (handle : Handle) : Turn Discard Unit :=
  match handle.phase with
  | .unreaped => .goOn [] ⟨handle, .polling⟩
  | .reaped _ => .goOn [] ⟨handle, .killing⟩
  | .retired _ => .finish [] ()

end Discard

end ClockWarden.Supervisor
