import ClockWarden.Host.Time
import ClockWarden.Supervisor.Overlay
import ClockWarden.Text.Quoted

/-! What is supervised: the program with its arguments, the directory it works in, how long it may
take to stop, and the overlay that fakes its clock. -/

namespace ClockWarden.Supervisor

open Host

/-- The configuration of a managed process: what stays the same from launch to launch. -/
structure Deployment where
  program : Path
  arguments : List String
  directory : Path
  stopTimeout : Duration
  overlay : Overlay
deriving DecidableEq

namespace Deployment

def defaultProgram : Path := Utf8.encode "./Nethermind.Runner"
def defaultArguments : List String := ["--config", "circles"]
def defaultDirectory : Path := Utf8.encode "/nethermind"
def defaultStopTimeout : Duration := .ofSeconds 10

/-- What is supervised where nothing else is asked for. -/
def standard : Deployment where
  program := defaultProgram
  arguments := defaultArguments
  directory := defaultDirectory
  stopTimeout := defaultStopTimeout
  overlay := ⟨Overlay.defaultLibrary⟩

/-- A program without arguments, and all else as usual. -/
def ofProgram (program : Path) : Deployment :=
  { standard with program, arguments := [] }

/-- Deployments are alike when they differ at most in how their paths are spelled. -/
def Alike (d e : Deployment) : Prop :=
  Path.Alike d.program e.program ∧ d.arguments = e.arguments ∧
    Path.Alike d.directory e.directory ∧ d.stopTimeout = e.stopTimeout ∧
    Path.Alike d.overlay.library e.overlay.library

instance (d e : Deployment) : Decidable (Alike d e) := inferInstanceAs (Decidable (_ ∧ _))

/-- The path that is executed: a relative one with several components lies in the working directory,
a bare name is left to the search path. -/
def resolvedProgram (d : Deployment) : Path :=
  if !d.program.isAbsolute && 1 < d.program.components.length then
    Path.join d.directory d.program
  else d.program

/-- The text of a deployment in a debugging log. -/
def report (d : Deployment) : String :=
  "ManagedProcessConfig \x7b program: " ++ Text.quotedBytes d.program ++
    ", args: [" ++ ", ".intercalate (d.arguments.map Text.quoted) ++
    "], working_dir: " ++ Text.quotedBytes d.directory ++
    ", stop_timeout: " ++ d.stopTimeout.text ++
    ", faketime: FakeTimeEnvironment \x7b library: " ++ Text.quotedBytes d.overlay.library ++
    " \x7d \x7d"

end Deployment

end ClockWarden.Supervisor
