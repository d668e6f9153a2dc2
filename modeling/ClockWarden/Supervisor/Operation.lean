import ClockWarden.Supervisor.Discard
import ClockWarden.Supervisor.Launch
import ClockWarden.Supervisor.Status
import ClockWarden.Supervisor.Termination

/-! The operations of a supervisor. It manages at most one process. An operation has the supervisor to
itself from its first call to its last: a launch stops the process that is there before it starts
another. A fake time is looked at before the supervisor is, so a refused request touches nothing. -/

namespace ClockWarden.Supervisor

open Host

/-- The state of a supervisor: its configuration, the process that it manages, which a lock guards, and how
many launches have succeeded. -/
structure Warden where
  deployment : Deployment
  current : Option Handle := none
  launches : UInt64 := 0
deriving DecidableEq

/-- What a supervisor is asked to do. -/
inductive Operation where
  /-- Starts the process with the time that the supervisor itself observes. -/
  | launchInitial
  /-- Starts the process anew, under the fake time that a request gives. -/
  | restartWith (request : Option String)
  /-- Tells how things are. -/
  | tellStatus
  /-- Stops the process. -/
  | shutdown
deriving DecidableEq

namespace Operation

/-- The answer to an operation. -/
inductive Reply where
  | launched (result : Except Failure Confirmation)
  | told (status : Status)
  | stopped (result : Except Failure Unit)
  /-- The operation broke off, because the clock cannot count as far as its deadline. -/
  | overflowed

/-- What a broken operation says. -/
def overflowText : String := "overflow when adding duration to instant"

/-- What an operation on an acquired supervisor does at the end: start a process under a fake time or
without one, or leave none behind. -/
inductive Aim where
  | launch (time : Option FakeTime)
  | stop
deriving DecidableEq

/-- The answer of an operation that could not do what it aims at. -/
def Aim.failed (aim : Aim) (failure : Failure) : Reply :=
  match aim with
  | .launch _ => .launched (.error failure)
  | .stop => .stopped (.error failure)

/-- What an operation is about to do. -/
inductive Stage where
  /-- The old process is being retired; it is managed until it has been terminated. -/
  | stopping (aim : Aim) (termination : Termination)
  /-- There is no process; the environment is read. -/
  | inheriting (time : Option FakeTime)
  /-- There is no process; a new one is being started. -/
  | launching (launch : Launch)
  /-- The managed process is looked at. -/
  | polling (handle : Handle)
  /-- The managed process has ended, and is being let go of. -/
  | discarding (discard : Discard)
deriving DecidableEq

/-- An operation that has the supervisor to itself. -/
structure Underway where
  deployment : Deployment
  launches : UInt64
  stage : Stage
deriving DecidableEq

/-- The process that is managed while an operation is under way. -/
def Stage.current : Stage → Option Handle
  | .stopping _ termination => some termination.handle
  | .inheriting _ => none
  | .launching _ => none
  | .polling handle => some handle
  | .discarding _ => none

/-- What is left when an operation under way is given up. -/
def Underway.interrupted (u : Underway) : Warden :=
  ⟨u.deployment, u.stage.current, u.launches⟩

/-- What an operation leaves, and its answer. -/
abbrev Result := Warden × Reply

def target : String := "supervisor::supervisor"

def exited (pid : Pid) (status : ExitStatus) : Log.Entry :=
  ⟨.info, target, "🛑 Managed process " ++ toString pid ++ " exited (" ++ status.text ++ ")", none⟩

def notStopped (pid : Pid) (failure : Failure) : Log.Entry :=
  ⟨.error, target, "❌ Could not stop managed process " ++ toString pid ++ ": " ++ failure.message, none⟩

def notLaunched (failure : Failure) : Log.Entry := ⟨.error, target, "❌ " ++ failure.message, none⟩

def running (confirmation : Confirmation) : Log.Entry :=
  ⟨.info, target, "🚀 Managed process " ++ toString confirmation.pid ++ " running: " ++
    confirmation.message, none⟩

def exitedAlone (handle : Handle) : Log.Entry :=
  ⟨.warn, target, "⚠️ Managed process " ++ toString handle.pid ++ " exited on its own", none⟩

/-- The status of a supervisor whose process, if there is one, runs. -/
def statusOf (current : Option Handle) (launches : UInt64) : Status :=
  match current with
  | none => { launches }
  | some handle => ⟨true, some handle.pid, handle.fakeTime.map (·.text), some handle.startedAt, launches⟩

namespace Underway

/-- Goes on to a stage. -/
def goOn (u : Underway) (stage : Stage) : Turn Underway Result := .goOn [] { u with stage }

/-- Ends with a process, or none, and an answer. -/
def finish (u : Underway) (current : Option Handle) (reply : Reply) : Turn Underway Result :=
  .finish [] (⟨u.deployment, current, u.launches⟩, reply)

/-- There is no process any more, or none that needs to be stopped. -/
def vacated (u : Underway) : Aim → Turn Underway Result
  | .launch time => u.goOn (.inheriting time)
  | .stop => u.finish none (.stopped (.ok ()))

/-- The old process has been stopped, or could not be. -/
def retired (u : Underway) (aim : Aim) : Termination.Result → Turn Underway Result
  | (handle, .stopped status) => (u.vacated aim).after [exited handle.pid status]
  | (handle, .failed failure) =>
    (u.finish (some handle) (aim.failed failure)).after [notStopped handle.pid failure]
  | (handle, .overflowed) => u.finish (some handle) .overflowed

/-- A new process runs, or could not be started. -/
def launched (u : Underway) : Launch.Result → Turn Underway Result
  | .error failure => (u.finish none (.launched (.error failure))).after [notLaunched failure]
  | .ok handle =>
    let confirmation : Confirmation := ⟨handle.fakeTime, handle.pid⟩
    .finish [running confirmation]
      (⟨u.deployment, some handle, u.launches + 1⟩, .launched (.ok confirmation))

/-- There is no managed process; the status says so. -/
def toldEmpty (u : Underway) : Turn Underway Result :=
  u.finish none (.told (statusOf none u.launches))

/-- The managed process has ended by itself, and is let go of. -/
def discarding (u : Underway) (handle : Handle) : Turn Underway Result :=
  ((Discard.start handle).within (fun d => { u with stage := .discarding d })
    (fun _ => u.toldEmpty)).after [exitedAlone handle]

/-- The managed process has been looked at. -/
def inspected (u : Underway) : Handle × Bool → Turn Underway Result
  | (handle, true) => u.finish (some handle) (.told (statusOf (some handle) u.launches))
  | (handle, false) => u.discarding handle

/-- The call that a stage makes. -/
def call (u : Underway) : Call :=
  match u.stage with
  | .stopping _ termination => termination.call
  | .inheriting _ => .inherit
  | .launching launch => launch.call
  | .polling handle => Inspection.machine.call handle
  | .discarding discard => discard.call

/-- What comes after an answer of the host. -/
def receive (u : Underway) (answer : u.call.Answer) : Turn Underway Result :=
  match u, answer with
  | ⟨deployment, launches, .stopping aim termination⟩, answer =>
    let u : Underway := ⟨deployment, launches, .stopping aim termination⟩
    (termination.receive answer).within (fun t => { u with stage := .stopping aim t }) (u.retired aim)
  | ⟨deployment, launches, .inheriting time⟩, environment =>
    let u : Underway := ⟨deployment, launches, .inheriting time⟩
    (Launch.start deployment (deployment.overlay.apply environment time) time).within
      (fun l => { u with stage := .launching l }) u.launched
  | ⟨deployment, launches, .launching launch⟩, answer =>
    let u : Underway := ⟨deployment, launches, .launching launch⟩
    (launch.receive answer).within (fun l => { u with stage := .launching l }) u.launched
  | ⟨deployment, launches, .polling handle⟩, found =>
    let u : Underway := ⟨deployment, launches, .polling handle⟩
    (Inspection.machine.receive handle found).within (fun h => { u with stage := .polling h }) u.inspected
  | ⟨deployment, launches, .discarding discard⟩, answer =>
    let u : Underway := ⟨deployment, launches, .discarding discard⟩
    (discard.receive answer).within (fun d => { u with stage := .discarding d }) fun _ => u.toldEmpty

/-- How operations go on. -/
def machine : Machine Underway Result := ⟨call, receive⟩

end Underway

/-- What an operation asks of the supervisor, once it has it to itself. -/
inductive Task where
  | pursue (aim : Aim)
  | tell
deriving DecidableEq

/-- What an operation asks of the supervisor; a request without a usable fake time asks nothing. -/
def task : Operation → Except FakeTime.Refusal Task
  | .launchInitial => .ok (.pursue (.launch none))
  | .restartWith request => (FakeTime.ofRequest request).map fun time => .pursue (.launch (some time))
  | .tellStatus => .ok .tell
  | .shutdown => .ok (.pursue .stop)

/-- The first turn on an acquired supervisor. -/
def Task.start (s : Warden) : Task → Turn Underway Result
  | .pursue aim =>
    match s.current with
    | none =>
      match aim with
      | .launch time => .goOn [] ⟨s.deployment, s.launches, .inheriting time⟩
      | .stop => .finish [] (s, .stopped (.ok ()))
    | some handle =>
      .goOn [] ⟨s.deployment, s.launches,
        .stopping aim { handle, grace := s.deployment.stopTimeout }⟩
  | .tell =>
    match s.current with
    | none => .finish [] (s, .told (statusOf none s.launches))
    | some handle =>
      let u : Underway := ⟨s.deployment, s.launches, .polling handle⟩
      (Inspection.start handle).within (fun h => { u with stage := .polling h }) u.inspected

/-- The first turn of an operation. -/
def start (s : Warden) (operation : Operation) : Turn Underway Result :=
  match operation.task with
  | .error refusal => .finish [] (s, .launched (.error (.badRequest (.fakeTime refusal))))
  | .ok task => task.start s

end Operation

/-- The first turn of letting go of a supervisor. -/
def Warden.drop (s : Warden) : Turn Discard Unit :=
  match s.current with
  | none => .finish [] ()
  | some handle => Discard.start handle

end ClockWarden.Supervisor
