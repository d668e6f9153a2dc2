import ClockWarden.Proofs.Service.Serving
import ClockWarden.Proofs.Supervisor.ResumedStop

/-! Clients that leave. The handling of a request is given up when its client closes the connection, and
a restart may be given up after the old process was asked to end (`restart_given_up_halfway`). Then
nothing was started, but the supervisor still manages that process, and whoever launches or stops next
takes up its stop, unless a look at the status has let go of the process before (`restart_given_up`). -/

namespace ClockWarden.Service

open Host Supervisor

namespace Server

namespace Sample

open Shared.Sample

/-- The restart waits for the first process to end. -/
def awaiting : Operation.Underway where
  deployment := .standard
  launches := 1
  stage := .stopping (.launch (some nextDay))
    { handle := firstHandle, grace := Deployment.standard.stopTimeout,
      stage := .awaiting ⟨Deployment.standard.stopTimeout.nanos⟩ }

/-- The first process has ended, as it was asked to. -/
def obeyed : ProcessTable := ⟨[{ pid := 7, leader := .ended (.signaled .terminate) }]⟩

/-- The server while the restart waits. -/
def busy (history : List (Supervisor.Event ProcessTable)) : Server ProcessTable :=
  ⟨⟨obeyed, .taken 1 (.restartWith (some "+1d")) awaiting, [], history⟩, [(1, request)]⟩

/-- The server when the restart has been given up. -/
def left (history : List (Supervisor.Event ProcessTable)) : Server ProcessTable :=
  ⟨⟨obeyed, .vacant ⟨.standard, some firstHandle, 1⟩, [], .givenUp 1 :: history⟩, [(1, request)]⟩

theorem leaves (behaviour : Behaviour ProcessTable) (history : List (Supervisor.Event ProcessTable)) :
    Step behaviour (busy history) (left history) := by
  have hstep := @Shared.Step.giveUp _ behaviour (busy history).supervisor 1 _ awaiting rfl rfl
  exact .goes hstep

/-- The first process has been reaped by a look at it. -/
def reaped : ProcessTable := ⟨[{ pid := 7, leader := .reaped (.signaled .terminate) }]⟩

/-- What comes of asking for the status then. -/
def looked : List (Supervisor.Event ProcessTable) :=
  [.returned 2 .tellStatus (.told { launches := 1 }) reaped,
    .exchanged (some 2) ⟨.signalGroup 7 .kill, (.error Errno.noSuchProcess : Except Errno Unit)⟩,
    .exchanged (some 2)
      ⟨.pollExit 7, (.ok (some (.signaled .terminate)) : Except Error (Option ExitStatus))⟩,
    .called 2 .tellStatus]

/-- The server when the status has been told, and the process has been let go of. -/
def emptied (history : List (Supervisor.Event ProcessTable)) : Server ProcessTable :=
  ⟨⟨reaped, .vacant ⟨.standard, none, 1⟩, [], looked ++ .givenUp 1 :: history⟩, [(1, request)]⟩

end Sample

end Server

end ClockWarden.Service
