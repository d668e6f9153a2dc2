import ClockWarden.Rehearsal.Files
import ClockWarden.Shell.Session

/-! A rehearsed host: a clock, files, open files and processes, all of them values. Time passes only where
somebody waits. A process that has ended stays until its parent reaps it; one that lost its parent is
reaped at once. -/

namespace ClockWarden.Rehearsal

open Host Shell

/-- What a process runs in a child of its own, and what it does when that ends. -/
structure Watch where
  child : Pid
  /-- When the child is told to end, with which signal, and how much later it is killed. -/
  deadline : Option Instant := none
  signal : Signal := .terminate
  killAfter : Option Nat := none
  isLate : Bool := false
  /-- Whether the status of a child that came too late is passed on. -/
  passesOn : Bool := false
  /-- Whether the child shares the group of the process that watches it. -/
  inForeground : Bool := false
  received : List Signal := []
  /-- The commands that are to be run after the child, in turn. -/
  next : List (List Bytes) := []
  code : UInt8 := 0

/-- What a process is doing. -/
inductive Activity where
  /-- A program of the host is at work; it may have seen so much of its input and wait for more. -/
  | program (name : String) (seen : Option Nat)
  | sleeping (wake : Instant)
  | watching (watch : Watch)
  | shell (session : Session)
  | ended (status : ExitStatus)

/-- Who reaps a process. -/
inductive Parent where
  | supervisor
  | process (pid : Pid)
  | host
deriving DecidableEq

/-- What is behind an open file. -/
inductive Channel where
  | nowhere
  /-- Where the output of the supervisor goes. -/
  | console
  | file (location : Location)
  | text (content : Bytes)
  | reader (pipe : Nat)
  | writer (pipe : Nat)
deriving DecidableEq

namespace Parent

/-- The number that a parent goes by; the process that everything begins with comes before all others. -/
def pid : Parent → Pid
  | .supervisor => 100000
  | .process pid => pid
  | .host => 1

end Parent

/-- An open file. Descriptors that lead to it share its place. -/
structure OpenFile where
  channel : Channel
  offset : Nat := 0
  appends : Bool := false
  isReadable : Bool := true
  isWritable : Bool := true

/-- A process. Its environment is the strings that it was handed, in their order; its descriptors lead
to open files. -/
structure Process where
  pid : Pid
  parent : Parent
  group : Pid
  session : Pid := group
  /-- The path of the program, and the name that it goes by. -/
  program : Path := []
  name : Bytes := []
  arguments : List Bytes
  environment : List Bytes
  directory : Location
  descriptors : List (Nat × Nat) := [(0, 0), (1, 1), (2, 1)]
  activity : Activity
  ignored : List Signal := []
  isStopped : Bool := false
  held : List Signal := []
  /-- The rights that the files it makes are made without. -/
  mask : Nat := 0o22

/-- A rehearsed host. -/
structure World where
  now : Instant := ⟨1000000000000⟩
  date : Calendar.Timestamp
  files : Files := .standard
  opened : Array OpenFile := #[⟨.nowhere, 0, false, true, true⟩, ⟨.console, 0, false, false, true⟩]
  pipes : Array Bytes := #[]
  processes : List Process := []
  nextPid : Pid := 100001
  environment : Environment := .empty
  directory : Location := []
  spawned : List Pid := []
  /-- What is still to come to a server. -/
  events : List Event := []
  /-- What the server answered, last first. -/
  responses : List (Option Http.Response) := []

namespace Process

/-- How a process ended, if it has. -/
def status? (p : Process) : Option ExitStatus :=
  match p.activity with
  | .ended status => some status
  | _ => none

def isAlive (p : Process) : Bool := p.status?.isNone

/-- A mode without the rights that a process does not give. -/
def withMask (p : Process) (mode : Nat) : Nat := mode - Nat.land mode p.mask

/-- The first variable of a name in the environment of a process. -/
def valueOf? (p : Process) (name : String) : Option Bytes :=
  let start := Utf8.encode name ++ [Environment.equals]
  p.environment.findSome? fun string =>
    if start.isPrefixOf string then some (string.drop start.length) else none

/-- The open file behind a descriptor. -/
def handle? (p : Process) (descriptor : Nat) : Option Nat := p.descriptors.lookup descriptor

/-- Leads a descriptor to an open file, or nowhere. -/
def lead (p : Process) (descriptor : Nat) (handle : Option Nat) : Process :=
  let others := p.descriptors.filter (·.1 ≠ descriptor)
  match handle with
  | some handle => { p with descriptors := (descriptor, handle) :: others }
  | none => { p with descriptors := others }

/-- The open files that a process keeps open; a shell may have put some aside. -/
def handles (p : Process) : List Nat :=
  let aside := match p.activity with
    | .shell s => s.work.flatMap fun
      | .redirect saved => saved.filterMap (·.2)
      | _ => []
    | _ => []
  p.descriptors.map (·.2) ++ aside

end Process

namespace World

def find? (w : World) (pid : Pid) : Option Process := w.processes.find? (·.pid = pid)

/-- Puts a process in the place of the one with its number. -/
def update (w : World) (p : Process) : World :=
  { w with processes := w.processes.map fun q => if q.pid = p.pid then p else q }

def remove (w : World) (pid : Pid) : World :=
  { w with processes := w.processes.filter (·.pid ≠ pid) }

/-- Adds a process under a new number. -/
def add (w : World) (make : Pid → Process) : Pid × World :=
  (w.nextPid,
    { w with processes := w.processes ++ [make w.nextPid], nextPid := w.nextPid + 1 })

/-- The members of a group; one that has ended belongs to it until it is reaped. -/
def members (w : World) (group : Pid) : List Process := w.processes.filter (·.group = group)

/-- Hands the children of a process to the host, which reaps those that have ended. -/
def orphan (w : World) (pid : Pid) : World :=
  { w with processes := w.processes.filterMap fun p =>
      if p.parent = .process pid then
        if p.isAlive then some { p with parent := .host } else none
      else some p }

/-- Ends a process. -/
def finish (w : World) (p : Process) (status : ExitStatus) : World :=
  let w := w.orphan p.pid
  match p.parent with
  | .host => w.remove p.pid
  | _ =>
    w.update { p with activity := .ended status, descriptors := [], isStopped := false, held := [] }

/-- Takes a signal that a process has asked for, if it has. -/
def caught (p : Process) (signal : Signal) : Option Activity :=
  match p.activity with
  | .shell session =>
    if session.traps.any (·.1 = signal) then
      some (.shell (if session.pending.contains signal then session
        else { session with pending := session.pending ++ [signal] }))
    else none
  | .watching watch =>
    if watch.deadline.isSome && [1, 2, 3, 14, 15].contains signal.number then
      some (.watching { watch with received := watch.received ++ [signal] })
    else none
  | _ => none

/-- A signal takes effect on a process. -/
def strike (w : World) (p : Process) (signal : Signal) : World :=
  match caught p signal with
  | some activity => w.update { p with activity }
  | none =>
    match signal.defaultEffect with
    | .ends => w.finish p (.signaled signal)
    | .stops => w.update { p with isStopped := true }
    | .resumes | .nothing => w

/-- A process resumes, and the signals that it could not take before take effect. -/
def resume (w : World) (p : Process) : World :=
  (p.held.foldl (fun w signal => match w.find? p.pid with
    | some p => if p.isAlive then w.strike p signal else w
    | none => w) (w.update { p with isStopped := false, held := [] }))

/-- Sends a signal to a process. -/
def send (w : World) (pid : Pid) (signal : Signal) : World :=
  match w.find? pid with
  | none => w
  | some p =>
    if !p.isAlive || signal.number = 0 then w
    else if signal = .kill then w.finish p (.signaled signal)
    else if signal = .resume then
      let w := w.resume p
      match w.find? pid with
      | some p => if p.isAlive && !p.ignored.contains signal then w.strike p signal else w
      | none => w
    else if p.ignored.contains signal && !signal.isUncatchable then w
    else if p.isStopped && signal ≠ .stop then
      if p.held.contains signal then w else w.update { p with held := p.held ++ [signal] }
    else w.strike p signal

/-- Sends a signal to all members of a group; finding none is an error. -/
def sendGroup (w : World) (group : Pid) (signal : Signal) : Except Errno Unit × World :=
  match w.members group with
  | [] => (.error Errno.noSuchProcess, w)
  | members => (.ok (), members.foldl (fun w p => w.send p.pid signal) w)

/-- Reaps a child that has ended. -/
def reap (w : World) (pid : Pid) : Option ExitStatus × World :=
  match (w.find? pid).bind Process.status? with
  | some status => (some status, w.remove pid)
  | none => (none, w)

end World

end ClockWarden.Rehearsal
