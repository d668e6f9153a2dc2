import ClockWarden.Rehearsal.Builtin

/-! What a shell runs in the background: how it learns that a job is over, and the commands that concern
jobs. -/

namespace ClockWarden.Rehearsal

open Host Shell

/-- The code that a status stands for in a shell. -/
def codeOf : ExitStatus → UInt8
  | .exited code => code
  | .signaled signal => UInt8.ofNat (128 + signal.number)

/-- What a shell says when a command is ended by a signal. -/
def signalTexts : List String := ["Hangup", "Interrupt", "Quit", "Illegal instruction",
  "Trace/breakpoint trap", "Aborted", "Bus error", "Floating point exception", "Killed",
  "User defined signal 1", "Segmentation fault", "User defined signal 2", "Broken pipe", "Alarm clock",
  "Terminated", "Stack fault", "Child exited", "Continued", "Stopped (signal)", "Stopped",
  "Stopped (tty input)", "Stopped (tty output)", "Urgent I/O condition", "CPU time limit exceeded",
  "File size limit exceeded", "Virtual timer expired", "Profiling timer expired", "Window changed",
  "I/O possible", "Power failure", "Bad system call"]

def signalText (signal : Signal) : Bytes :=
  ascii ((signalTexts[signal.number - 1]?).getD ("Unknown signal " ++ toString signal.number))

/-- The line about a command that was ended by a signal; two signals are not worth one. -/
def endingLine : ExitStatus → Bytes
  | .exited _ => []
  | .signaled signal =>
    if signal.number = 2 ∨ signal.number = 13 then [] else signalText signal ++ [lineBreak]

namespace World

/-- Whether a child of a shell has nothing left to do. -/
def isOver (w : World) (pid : Pid) : Bool :=
  match w.find? pid with
  | some child => !child.isAlive
  | none => true

/-- Reaps a child that is over: its code, and what is said about it. -/
def reapCode (w : World) (pid : Pid) : UInt8 × Bytes × World :=
  match w.reap pid with
  | (some status, w) => (codeOf status, endingLine status, w)
  | (none, w) => (127, [], w)

/-- Reaps children that are over; the code of the last one counts. -/
def reapAll (w : World) (pids : List Pid) : UInt8 × Bytes × World :=
  pids.foldl (fun (_, said, w) pid =>
    let (code, line, w) := w.reapCode pid
    (code, said ++ line, w)) (0, [], w)

/-- Whether all processes of a job are over. -/
def isJobOver (w : World) (j : Job) : Bool :=
  j.members.all fun (pid, status) => status.isSome || w.isOver pid

/-- Learns how processes of a job ended: what is said about that, and the job. -/
def learn (w : World) (j : Job) : Bytes × Job × World :=
  let (said, members, w) := j.members.foldl (fun (said, members, w) (pid, status) =>
    let (line, status, w) := match status with
      | some status => ([], some status, w)
      | none =>
        match w.reap pid with
        | (some status, w) => (endingLine status, some status, w)
        | (none, w) => ([], none, w)
    (said ++ line, members ++ [(pid, status)], w)) (([], [], w) :
      Bytes × List (Pid × Option ExitStatus) × World)
  (said, { j with members }, w)

/-- Learns how the jobs of a shell are; something is said about those that it waits for. -/
def learnAll (w : World) (s : Session) (isAwaited : Nat → Bool) : Bytes × Session × World :=
  s.jobs.foldr (fun j (said, s, w) =>
    let (line, j, w) := w.learn j
    (said ++ if isAwaited j.number then line else [], { s with jobs := j :: s.jobs }, w))
    ([], { s with jobs := [] }, w)

end World

/-- The job that a word names; the latest one where there is no word. -/
def jobNamed (s : Session) (word : Option Bytes) : Except Bytes Job :=
  let or (text : Bytes) : Option Job → Except Bytes Job
    | some j => .ok j
    | none => .error text
  match word with
  | none => or (ascii "No current job") s.jobs.head?
  | some word =>
    let noSuch := ascii "No such job: " ++ word
    match word with
    | 0x25 :: rest =>
      if rest = [] || rest = [0x25] || rest = [0x2B] then or (ascii "No current job") s.jobs.head?
      else if rest = [0x2D] then or (ascii "No previous job") (s.jobs[1]?)
      else or noSuch ((numeral? rest).bind s.job?)
    | _ => .error noSuch

/-- A text that is followed by blanks up to a column, by one at least. -/
def upToColumn (column : Nat) (text : Bytes) : Bytes :=
  text ++ List.replicate (max 1 (column - text.length)) Session.space

/-- The lines about a job. -/
def jobLines (s : Session) (showsPids : Bool) (j : Job) : Bytes :=
  let isAt (place : Nat) : Bool := (s.jobs[place]?).any (·.number = j.number)
  let sign := if isAt 0 then "+" else if isAt 1 then "-" else " "
  let head := ascii ("[" ++ toString j.number ++ "] " ++ sign ++ " ")
  let state := match j.status? with
    | none => ascii "Running"
    | some (.exited 0) => ascii "Done"
    | some (.exited code) => ascii ("Done(" ++ toString code.toNat ++ ")")
    | some (.signaled signal) => signalText signal
  let number (member : Pid × Option ExitStatus) : Bytes :=
    Session.decimal member.1.toNat ++ [Session.space]
  let pids := if showsPids then (j.members.take 1).flatMap number else []
  let first := upToColumn 33 (head ++ pids ++ state)
  first ++ (j.members.drop 1).flatMap (fun member =>
    if showsPids then
      ascii " |\n" ++ upToColumn 33 (List.replicate head.length Session.space ++ number member)
    else ascii " | ") ++ [lineBreak]

/-- The command that lists jobs; those that are over are listed once. -/
def jobsAct (a : Act) (arguments : List Bytes) : Act :=
  let options := arguments.takeWhile fun word => [ascii "-l", ascii "-p"].contains word
  let mode := options.getLast?
  let (_, session, world) := a.world.learnAll a.session fun _ => false
  let a := { a with session, world }
  let shown (a : Act) (j : Job) : Act :=
    if mode = some (ascii "-p") then
      a.say ((j.members.take 1).flatMap fun member => Session.decimal member.1.toNat ++ [lineBreak])
    else
      let a := a.say (jobLines a.session mode.isSome j)
      if j.isDone then
        { a with session := { a.session with jobs := a.session.jobs.filter (·.number ≠ j.number) } }
      else a
  match arguments.drop options.length with
  | [] => a.session.jobs.foldl shown a
  | names =>
    names.foldl (fun a name =>
      match jobNamed a.session (some name) with
      | .ok j => shown a j
      | .error text => a.complain 2 (ascii "jobs: " ++ text)) a

/-- The command that brings a job to the front, which only a shell that controls jobs can do. -/
def frontAct (a : Act) (name : String) (arguments : List Bytes) : Act :=
  match jobNamed a.session arguments.head? with
  | .ok _ =>
    a.complain 2 (ascii (name ++ ": job ") ++ (arguments.head?).getD (ascii "(null)") ++
      ascii " not created under job control")
  | .error text => a.complain 2 (ascii (name ++ ": ") ++ text)

/-- The jobs that words mean; a process that is none of a job means nothing. -/
def awaited (s : Session) (words : List Bytes) : Except Bytes (List (Option Nat)) :=
  words.mapM fun word =>
    if word.head? = some 0x25 then (jobNamed s (some word)).map fun j => some j.number
    else
      match pidOf? word with
      | some pid =>
        .ok ((s.jobs.find? fun j => j.members.getLast?.map (·.1) = some pid).map (·.number))
      | none => .error (ascii "Illegal number: " ++ word)

/-- The number that a target of a signal goes by; a job is meant by the group of its first process. -/
def targetNumber (s : Session) (word : Bytes) : Except Bytes Bytes :=
  if word.head? = some 0x25 then
    (jobNamed s (some word)).map fun j =>
      0x2D :: (j.members.head?.map fun member => Session.decimal member.1.toNat).getD []
  else if (pidOf? (if word.head? = some 0x2D then word.drop 1 else word)).isSome then .ok word
  else .error (ascii "Illegal number: " ++ word)

end ClockWarden.Rehearsal
