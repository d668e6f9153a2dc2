import ClockWarden.Supervisor.Deployment
import ClockWarden.Supervisor.Handle
import ClockWarden.Supervisor.Machine

/-! Starting a managed process. It runs as soon as the host says so; nobody waits until it is ready. -/

namespace ClockWarden.Supervisor

open Host

/-- What the host is asked to run. -/
def Deployment.command (d : Deployment) (environment : Environment) : Command where
  program := d.resolvedProgram
  arguments := d.arguments.map Utf8.encode
  directory := d.directory
  environment := environment

namespace Launch

/-- What is being done to start a process. -/
inductive Stage where
  /-- The host is asked to start it. -/
  | spawning
  /-- It runs; the date is read. -/
  | stamping (pid : Pid)
deriving DecidableEq

end Launch

/-- A managed process that is being spawned. -/
structure Launch where
  deployment : Deployment
  environment : Environment
  fakeTime : Option FakeTime
  stage : Launch.Stage := .spawning
deriving DecidableEq

namespace Launch

abbrev Result := Except Failure Handle

def target : String := "supervisor::process"

/-- The log entry of a process that runs. -/
def spawned (deployment : Deployment) (pid : Pid) : Log.Entry :=
  ⟨.debug, target, "🧭 Spawned " ++ deployment.resolvedProgram.text ++ " (PID: " ++ toString pid ++
    ") in " ++ deployment.directory.text, none⟩

/-- The call that a stage makes. -/
def call (l : Launch) : Call :=
  match l.stage with
  | .spawning => .spawn (l.deployment.command l.environment)
  | .stamping _ => .readDate

/-- What comes after an answer of the host. -/
def receive (l : Launch) (answer : l.call.Answer) : Turn Launch Result :=
  match l, answer with
  | ⟨deployment, environment, fakeTime, .spawning⟩, answer =>
    match (answer : Except Error Pid) with
    | .error cause => .finish [] (.error (.launch deployment.resolvedProgram.text cause))
    | .ok pid =>
      .goOn [spawned deployment pid] ⟨deployment, environment, fakeTime, .stamping pid⟩
  | ⟨_, environment, fakeTime, .stamping pid⟩, now =>
    .finish [] (.ok { pid, environment, fakeTime, startedAt := now })

/-- How processes are started. -/
def machine : Machine Launch Result := ⟨call, receive⟩

/-- The first turn of starting a process. -/
def start (deployment : Deployment) (environment : Environment) (fakeTime : Option FakeTime) :
    Turn Launch Result :=
  .goOn [] { deployment, environment, fakeTime }

end Launch

end ClockWarden.Supervisor
