import ClockWarden.Main
import ClockWarden.Proofs.CommandLine.Precedence
import ClockWarden.Proofs.Control.FakeTimes
import ClockWarden.Proofs.Service.AbandonedRestart
import ClockWarden.Proofs.Service.CarriedFakeTime
import ClockWarden.Proofs.Service.GracePeriod
import ClockWarden.Proofs.Service.IdleRequests
import ClockWarden.Proofs.Service.LogLevels
import ClockWarden.Proofs.Service.ObjectBodies
import ClockWarden.Proofs.Service.Sequential
import ClockWarden.Proofs.Service.StopSignals
import ClockWarden.Proofs.Service.WaysOut
import ClockWarden.Proofs.Supervisor.Addressing
import ClockWarden.Proofs.Supervisor.Groups
import ClockWarden.Proofs.Supervisor.Layers
import ClockWarden.Proofs.Supervisor.Polling
import ClockWarden.Proofs.Supervisor.Recovery
import ClockWarden.Proofs.Supervisor.Refusals
import ClockWarden.Proofs.Supervisor.Resolution
