import ClockWarden.Calendar.Timestamp
import ClockWarden.Host.Environment
import ClockWarden.Host.Error
import ClockWarden.Host.ExitStatus
import ClockWarden.Host.Path
import ClockWarden.Host.Time
import ClockWarden.Http.Message
import ClockWarden.Net.SocketAddress

/-! What a program asks of its host, and what the host may answer. Nothing is said here about which
answer comes; a law about programs holds for all of them, or names those it needs. -/

namespace ClockWarden.Host

/-- The number of a process, and of the group that it leads. -/
abbrev Pid := UInt32

/-- The error number of a refused signal. -/
abbrev Errno := Int

/-- There is no such process, or no such group. -/
def Errno.noSuchProcess : Errno := 3

/-- What is to be run, where, and with which environment. It leads a group of its own and reads from
nowhere. -/
structure Command where
  program : Path
  arguments : List Bytes
  directory : Path
  environment : Environment
deriving DecidableEq

/-- Whether a byte string holds a NUL. -/
def hasNul (bytes : Bytes) : Bool := bytes.contains 0

/-- Whether a command holds a NUL anywhere. -/
def Command.holdsNul (c : Command) : Bool :=
  hasNul c.program || c.arguments.any hasNul || hasNul c.directory ||
    c.environment.entries.any fun (name, value) => hasNul name || hasNul value

/-- What may come to a server. -/
inductive Event where
  /-- A request. -/
  | request (request : Http.Request)
  /-- A signal that asks the server to stop. -/
  | signal (signal : Signal)
  /-- The listening socket breaks. -/
  | broken (cause : Error)
deriving DecidableEq

/-- A call on the host. -/
inductive Call where
  /-- Reads the clock that never goes back. -/
  | readClock
  /-- Reads the date and the time of day. -/
  | readDate
  /-- Reads the environment of the caller. -/
  | inherit
  /-- Starts a process. -/
  | spawn (command : Command)
  /-- Sends a signal to all members of a group. -/
  | signalGroup (group : Pid) (signal : Signal)
  /-- Asks whether a group has members. -/
  | probeGroup (group : Pid)
  /-- Asks whether a child has ended, and reaps it if so. -/
  | pollExit (pid : Pid)
  /-- Waits for a child to end, and reaps it. -/
  | awaitExit (pid : Pid)
  /-- Waits for a child to end, and reaps it, but not beyond a deadline. -/
  | awaitExitUntil (pid : Pid) (deadline : Instant)
  /-- Lets time pass. -/
  | sleep (length : Duration)
  /-- Kills a child, and leaves it to the host to reap it. -/
  | abandon (pid : Pid)
  /-- Listens at an address. -/
  | listen (address : Net.SocketAddress)
  /-- Waits for what comes next to the server. -/
  | nextEvent
  /-- Answers the request that came last, or closes its connection. -/
  | respond (response : Option Http.Response)
deriving DecidableEq

/-- What the host answers to a call. -/
def Call.Answer : Call → Type
  | .readClock => Instant
  | .readDate => Calendar.Timestamp
  | .inherit => Environment
  | .spawn _ => Except Error Pid
  | .signalGroup .. => Except Errno Unit
  | .probeGroup _ => Except Errno Unit
  | .pollExit _ => Except Error (Option ExitStatus)
  | .awaitExit _ => Except Error ExitStatus
  | .awaitExitUntil .. => Option (Except Error ExitStatus)
  | .sleep _ => Unit
  | .abandon _ => Unit
  | .listen _ => Except Error Net.SocketAddress
  | .nextEvent => Event
  | .respond _ => Unit

/-- Whether a caller may be given up while it waits for the answer; all other calls answer at once. -/
def Call.suspends : Call → Bool
  | .awaitExit _ | .awaitExitUntil .. | .sleep _ | .nextEvent => true
  | _ => false

/-- The signal that a call sends, and the group that it is sent to. -/
def Call.signal? : Call → Option (Pid × Signal)
  | .signalGroup group signal => some (group, signal)
  | _ => none

end ClockWarden.Host
