import ClockWarden.CommandLine.EnvironmentFile
import ClockWarden.CommandLine.Reading
import ClockWarden.Control.Failure

/-! How the control program begins: the environment file fills in what is not set, the arguments are
read, and the log filter is made. Nothing is launched before all of this has succeeded. -/

namespace ClockWarden.Service

open Host

/-- The settings of a program that goes on. -/
structure Setup where
  settings : CommandLine.Settings
  filter : Log.Filter
deriving DecidableEq

/-- How the program begins. -/
inductive Opening where
  /-- Only a text is shown. -/
  | stopped (stop : CommandLine.Stop)
  /-- The log filter is no good. -/
  | rejected (failure : Control.Failure)
  /-- The reading of the log filter breaks off. -/
  | brokenOff (tear : Tear)
  | opened (setup : Setup)

/-- The environment in which the program goes on. -/
def environment (inherited : Environment) (file : Option Bytes) : Environment :=
  match file with
  | some content => CommandLine.EnvironmentFile.extend inherited content
  | none => inherited

/-- How the program begins with arguments and an environment. -/
def Opening.of (arguments : List Bytes) (environment : Environment) : Opening :=
  match CommandLine.Settings.ofArguments arguments environment with
  | .error stop => .stopped stop
  | .ok settings =>
    match Log.Identity.controller.filter settings.logLevel with
    | .error (.refused cause) => .rejected (.logFilter cause)
    | .error (.torn tear) => .brokenOff tear
    | .ok filter => .opened ⟨settings, filter⟩

/-- What a run of the program leaves. -/
structure Ending where
  exitCode : UInt8
  output : String := ""
  complaint : String := ""
deriving DecidableEq

/-- The end of a run that only shows a text. -/
def Ending.ofStop (stop : CommandLine.Stop) (environment : Environment) : Ending :=
  let text := stop.printed environment
  if stop.isFault then { exitCode := UInt8.ofNat stop.exitCode, complaint := text }
  else { exitCode := UInt8.ofNat stop.exitCode, output := text }

/-- The end of a run that failed. -/
def Ending.ofFailure (failure : Control.Failure) : Ending :=
  { exitCode := 1, complaint := "Error: " ++ failure.report ++ "\n" }

/-- The end of a run that broke off at a cut. -/
def Ending.ofTear (tear : Tear) : Ending := { exitCode := 101, complaint := tear.message ++ "\n" }

end ClockWarden.Service
