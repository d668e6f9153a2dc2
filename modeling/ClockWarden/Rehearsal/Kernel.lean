import ClockWarden.Rehearsal.Step
import ClockWarden.Supervisor.Machine

/-! How a rehearsed host answers the calls of a supervisor. Only waiting and sleeping let time pass, and
only they let other processes go on. -/

namespace ClockWarden.Rehearsal

open Host

namespace World

/-- Starts a process, which leads a group of its own. -/
def spawn (w : World) (c : Command) : Except Error Pid × World :=
  let image : Except Error (Process × Image) :=
    if c.holdsNul then .error .nulByte
    else do
      let here ← w.files.directory w.directory c.directory
      let p : Process :=
        { pid := w.nextPid, parent := .supervisor, group := w.nextPid, arguments := [],
          environment := c.environment.block, directory := here, activity := .ended (.exited 0) }
      .ok (p, ← w.execute p c.program (c.program :: c.arguments))
  match image with
  | .error cause => (.error cause, w)
  | .ok (p, image) =>
    let (pid, w) := w.add fun _ => p.running image
    (.ok pid, { w with spawned := w.spawned ++ [pid] })

/-- There is no such child. -/
def noChild : Error := .code 10

/-- Looks whether a child has ended. -/
def poll (w : World) (pid : Pid) : Except Error (Option ExitStatus) × World :=
  match w.find? pid with
  | none => (.error noChild, w)
  | some _ =>
    let (status, w) := w.reap pid
    (.ok status, w)

/-- Lets go of a child. -/
def abandon (w : World) (pid : Pid) : World :=
  match w.find? pid with
  | none => w
  | some p => if p.isAlive then (w.update { p with parent := .host }).send pid .kill else w.remove pid

/-- Waits for a child up to a moment. -/
def waitFor (w : World) (pid : Pid) (limit : Instant) : World :=
  if limit ≤ w.now then w else w.await limit (·.isOver pid)

/-- Time passes. -/
def pass (w : World) (length : Duration) : World :=
  w.await ⟨w.now.nanos + length.nanos⟩ fun _ => false

/-- The date, as far from the beginning as the clock is. -/
def dateNow (w : World) : Calendar.Timestamp := w.date.plus w.now.nanos

/-- Reaps a child for which somebody waited. -/
def reapAwaited (w : World) (pid : Pid) : Except Error ExitStatus × World :=
  match w.reap pid with
  | (some status, w) => (.ok status, w)
  | (none, w) => (.error noChild, w)

/-- Waits for a child up to a deadline, and reaps it. -/
def awaitUntil (w : World) (pid : Pid) (deadline : Instant) :
    Option (Except Error ExitStatus) × World :=
  let w := w.waitFor pid deadline
  if w.isOver pid then
    let (ended, w) := w.reapAwaited pid
    (some ended, w)
  else (none, w)

/-- The first port that everybody may listen at, and the one that is given where none is named. -/
def firstFreePort : UInt16 := 1024
def givenPort : UInt16 := 40000

/-- Listens at an address. -/
def listen (address : Net.SocketAddress) : Except Error Net.SocketAddress :=
  if address.port = 0 then .ok { address with port := givenPort }
  else if address.port < firstFreePort then .error .accessDenied
  else .ok address

/-- The answer to a call. There is none to a server that waits while nothing is to come. -/
def answer? (call : Call) (w : World) : Option (call.Answer × World) :=
  match call with
  | .readClock => some (w.now, w)
  | .readDate => some (w.dateNow, w)
  | .inherit => some (.ofBlock w.environment.block, w)
  | .spawn command => some (w.spawn command)
  | .signalGroup group signal => some (w.sendGroup group signal)
  | .probeGroup group =>
    some (if (w.members group).isEmpty then .error Errno.noSuchProcess else .ok (), w)
  | .pollExit pid => some (w.poll pid)
  | .awaitExit pid => some ((w.await ⟨Instant.limit⟩ (·.isOver pid)).reapAwaited pid)
  | .awaitExitUntil pid deadline => some (w.awaitUntil pid deadline)
  | .sleep length => some ((), w.pass length)
  | .abandon pid => some ((), w.abandon pid)
  | .listen address => some (listen address, w)
  | .nextEvent =>
    match w.events with
    | [] => none
    | event :: events => some (event, { settle rounds w with events })
  | .respond response => some ((), { w with responses := response :: w.responses })

end World

/-- A scene of a rehearsal: a host, and the log that was kept on it, last entry first. -/
structure Scene where
  world : World
  log : List Log.Entry := []

/-- A rehearsed host as a stage for activities. -/
def stage : Supervisor.Machine.Stage (OptionT (StateM Scene)) where
  answer call := do
    let r ← get
    match r.world.answer? call with
    | some (answer, world) =>
      set { r with world }
      pure answer
    | none => failure
  log entry := modify fun r => { r with log := entry :: r.log }

/-- How many calls an activity may make. -/
def callLimit : Nat := 1000000

/-- Runs an activity on a rehearsed host. Nothing comes of one that waits in vain. -/
def run {State Result : Type} (machine : Supervisor.Machine State Result)
    (turn : Supervisor.Turn State Result) : StateM Scene (Option Result) := do
  return (← (machine.run stage callLimit turn).run).join

end ClockWarden.Rehearsal
