import ClockWarden.Net.SocketAddress
import ClockWarden.Supervisor.Deployment
import ClockWarden.Text.Number

/-! The options of the command line: their names, the environment variables that stand in for them,
and their values. -/

namespace ClockWarden.CommandLine

open Supervisor

/-- An option that takes a value. -/
inductive Flag where
  | bind
  | program
  | directory
  | library
  | stopTimeout
  | logLevel
deriving DecidableEq, Repr

namespace Flag

/-- All options, in the order of the help text. -/
def all : List Flag := [.bind, .program, .directory, .library, .stopTimeout, .logLevel]

/-- The name of an option, without the dashes in front of it. -/
def name : Flag → String
  | .bind => "bind"
  | .program => "program"
  | .directory => "working-dir"
  | .library => "faketime-library"
  | .stopTimeout => "stop-timeout-secs"
  | .logLevel => "log-level"

/-- What stands for the value of an option. -/
def placeholder : Flag → String
  | .bind => "BIND"
  | .program => "PROGRAM"
  | .directory => "WORKING_DIR"
  | .library => "FAKETIME_LIBRARY"
  | .stopTimeout => "STOP_TIMEOUT_SECS"
  | .logLevel => "LOG_LEVEL"

/-- The environment variable that an option is taken from when it is not given. -/
def standIn : Flag → Option String
  | .bind => some "TIME_CONTROLLER_BIND"
  | .program => some "MANAGED_PROGRAM"
  | .directory => some "MANAGED_WORKING_DIR"
  | .library => some "FAKETIME_LIBRARY"
  | .stopTimeout => some "STOP_TIMEOUT_SECS"
  | .logLevel => none

def description : Flag → String
  | .bind => "Address the control endpoint listens on"
  | .program => "Managed binary; relative paths with a separator resolve against --working-dir"
  | .directory => "Working directory of the managed binary"
  | .library => "libfaketime shared object preloaded into the managed binary"
  | .stopTimeout => "Seconds to wait after SIGTERM before sending SIGKILL"
  | .logLevel => "Log level (trace, debug, info, warn, error)"

/-- The value of an option that is neither given nor found in the environment. -/
def standard : Flag → Bytes
  | .bind => Utf8.encode "0.0.0.0:5000"
  | .program => Deployment.defaultProgram
  | .directory => Deployment.defaultDirectory
  | .library => Overlay.defaultLibrary
  | .stopTimeout => Utf8.encode "10"
  | .logLevel => Utf8.encode "info"

/-- An option with its value, as messages show it. -/
def usage (f : Flag) : String := "--" ++ f.name ++ " <" ++ f.placeholder ++ ">"

end Flag

/-- What is wrong with the value of an option. -/
inductive BadValue where
  | missing
  | notText
  | invalid (reason : String)
deriving DecidableEq, Repr

/-- The values of all options, and the arguments of the managed program. -/
structure Settings where
  bind : Net.SocketAddress := ⟨.v4 0 0 0 0, 5000⟩
  program : Host.Path := Deployment.defaultProgram
  directory : Host.Path := Deployment.defaultDirectory
  library : Host.Path := Overlay.defaultLibrary
  stopTimeout : UInt64 := 10
  logLevel : String := "info"
  arguments : List String := []
deriving DecidableEq

namespace Settings

/-- A path as a value; it is not empty. -/
def path (value : Bytes) : Except BadValue Host.Path :=
  if value.isEmpty then .error .missing else .ok value

/-- A text as a value. -/
def text (value : Bytes) : Except BadValue String :=
  match Utf8.decode? value with
  | some text => .ok text
  | none => .error .notText

/-- The settings with the value of one option. -/
def set (s : Settings) (flag : Flag) (value : Bytes) : Except BadValue Settings :=
  match flag with
  | .bind => do
    match Net.SocketAddress.ofText? (← text value) with
    | some address => pure { s with bind := address }
    | none => throw (.invalid "invalid socket address syntax")
  | .program => do pure { s with program := ← path value }
  | .directory => do pure { s with directory := ← path value }
  | .library => do pure { s with library := ← path value }
  | .stopTimeout => do
    match Text.natural 64 (← text value).toList with
    | .ok n => pure { s with stopTimeout := UInt64.ofNat n }
    | .error fault => throw (.invalid fault.message)
  | .logLevel => do pure { s with logLevel := ← text value }

/-- What the settings have supervised. Without arguments the managed program gets its usual ones. -/
def deployment (s : Settings) : Deployment where
  program := s.program
  arguments := if s.arguments.isEmpty then Deployment.defaultArguments else s.arguments
  directory := s.directory
  stopTimeout := .ofSeconds s.stopTimeout.toNat
  overlay := ⟨s.library⟩

end Settings

end ClockWarden.CommandLine
