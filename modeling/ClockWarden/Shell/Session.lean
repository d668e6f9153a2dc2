import ClockWarden.Host.Call
import ClockWarden.Shell.Reader

/-! A shell at work: its variables, the signals that it traps, and what it still has to do. A script is
read as it is worked through, so a line may change how those behind it are understood. -/

namespace ClockWarden.Shell

open Host

/-- A variable of a shell; it may be marked before it has a value. -/
structure Variable where
  value : Option Bytes
  isExported : Bool := false
  isReadonly : Bool := false

/-- What a shell has still to do. The status of a command counts as tested where something else
depends on it; a shell that ends at failures spares those. -/
inductive Frame where
  /-- Runs a command; the outputs that its words ask for have been collected so far. -/
  | run (command : Command) (isTested : Bool) (answers : List Bytes)
  /-- Sets variables, and runs a command whose words are known; descriptors have been redirected. -/
  | assign (assignments : List (Bytes × Word)) (command : List Bytes) (saved : List (Nat × Option Nat))
      (isTested asked : Bool) (answers : List Bytes)
  /-- Goes on with a script; a new one succeeds if nothing is in it. -/
  | script (rest : Source) (isTested isNew : Bool)
  /-- Goes on if the last command succeeded. -/
  | ifGood (command : Command) (isTested : Bool)
  /-- Goes on if the last command failed. -/
  | ifBad (command : Command) (isTested : Bool)
  | negate
  | choose (yes no : Command) (isTested : Bool)
  /-- The condition of a loop has been tried; `last` is the status of its body so far. -/
  | test (isUntil : Bool) (condition body : Command) (isTested : Bool) (last : UInt8)
  /-- The body of a loop has been run. -/
  | again (isUntil : Bool) (condition body : Command) (isTested : Bool)
  | each (name : Bytes) (values : List Bytes) (body : Command) (isTested : Bool)
  /-- Reads a line from where the input comes from. -/
  | reading (arguments : List Bytes) (isTested : Bool)
  /-- Ends the shell if the last command failed and the shell ends at failures. -/
  | check
  /-- Descriptors lead where they led before; none to nothing. -/
  | redirect (saved : List (Nat × Option Nat))
  /-- Variables are what they were before. -/
  | revert (saved : List (Bytes × Option Variable))
  /-- A function has been run; the parameters are what they were before. -/
  | call (parameters : List Bytes)
  /-- A file has been worked through. -/
  | file
  /-- The command that read a script is over, and another one is named in complaints, or none. -/
  | title (name : Bytes)
  /-- A trap has been served; the status is what it was before. -/
  | restore (status : UInt8)
  | leave

/-- What a shell runs in the background: the processes, each with how it ended once the shell knows. -/
structure Job where
  number : Nat
  members : List (Pid × Option ExitStatus)
  /-- Whether somebody has waited for it, so that it may be forgotten. -/
  isWaited : Bool := false

namespace Job

def isDone (j : Job) : Bool := j.members.all (·.2.isSome)

/-- How the last process ended, once all have. -/
def status? (j : Job) : Option ExitStatus :=
  if j.isDone then j.members.getLast?.bind (·.2) else none

end Job

/-- What a shell waits for. -/
inductive Waiting where
  | nothing
  /-- The processes of a command; the last of them tells its status. -/
  | command (pids : List Pid)
  /-- The output of a command that comes through a pipe. -/
  | output (pid : Pid) (pipe : Nat)
  /-- Jobs, by their numbers; the last of them tells its status. -/
  | jobs (numbers : List (Option Nat))
  | allJobs
  /-- A line of input. -/
  | line

/-- A shell at work. -/
structure Session where
  name : Bytes
  parameters : List Bytes := []
  values : List (Bytes × Variable) := []
  functions : List (Bytes × Command) := []
  /-- The letters of the options that are set. -/
  options : Bytes := []
  traps : List (Signal × Bytes) := []
  pending : List Signal := []
  /-- Signals that were ignored from the start, and stay so. -/
  hardened : List Signal := []
  status : UInt8 := 0
  /-- The status of the command whose output was collected last, while words are expanded. -/
  outputStatus : UInt8 := 0
  lastJob : Option Pid := none
  /-- The jobs that the shell remembers, the latest first. -/
  jobs : List Job := []
  /-- The names of the programs that the shell has found. -/
  tracked : List Bytes := []
  work : List Frame := []
  waiting : Waiting := .nothing
  /-- The shell that this one is a part of. -/
  root : Option Pid := none
  /-- Whether the last command takes the place of the shell. -/
  yields : Bool := false
  /-- The line of the command at hand. -/
  line : Nat := 1
  /-- The loops around this part of a shell. -/
  loops : Nat := 0
  /-- Where the next option stands: its argument, and its place within that. -/
  optionIndex : Nat := 1
  optionOffset : Nat := 0
  /-- The command that reads the script at hand, which is named in complaints. -/
  title : Bytes := []
  aliases : List (Bytes × Bytes) := []

namespace Session

def find? (s : Session) (name : Bytes) : Option Variable := s.values.lookup name

def get? (s : Session) (name : Bytes) : Option Bytes := (s.find? name).bind (·.value)

/-- The value of a variable that is named by a text. -/
def getText (s : Session) (name : String) : Bytes := (s.get? (Utf8.encode name)).getD []

/-- Replaces a variable; a new one comes last. -/
def put (s : Session) (name : Bytes) (v : Variable) : Session :=
  if s.values.any (·.1 = name) then
    { s with values := s.values.map fun entry => if entry.1 = name then (name, v) else entry }
  else { s with values := s.values ++ [(name, v)] }

def remove (s : Session) (name : Bytes) : Session :=
  { s with values := s.values.filter (·.1 ≠ name) }

def isReadonly (s : Session) (name : Bytes) : Bool :=
  match s.find? name with
  | some v => v.isReadonly
  | none => false

def hasOption (s : Session) (letter : UInt8) : Bool := s.options.contains letter

/-- Gives a variable a value. -/
def assign (s : Session) (name value : Bytes) : Session :=
  let v := (s.find? name).getD ⟨none, false, false⟩
  let s := if name = Utf8.encode "PATH" then { s with tracked := [] }
    else if name = Utf8.encode "OPTIND" then
      { s with optionIndex := (numeral? value).getD 1, optionOffset := 0 }
    else s
  s.put name { v with value := some value, isExported := v.isExported || s.hasOption 0x61 }

/-- Remembers that a program has been found. -/
def track (s : Session) (name : Bytes) : Session :=
  if s.tracked.contains name then s else { s with tracked := name :: s.tracked }

/-- Marks a variable for the programs that the shell runs. -/
def exported (s : Session) (name : Bytes) : Session :=
  s.put name { (s.find? name).getD ⟨none, false, false⟩ with isExported := true }

/-- Keeps a variable from being set again. -/
def sealed (s : Session) (name : Bytes) : Session :=
  s.put name { (s.find? name).getD ⟨none, false, false⟩ with isReadonly := true }

/-- The lists that a shell keeps its variables in are this many. -/
def bucketCount : Nat := 39

/-- The lists that a shell keeps the programs in that it has found are this many. -/
def trackCount : Nat := 31

/-- The list that a name is kept in, of so many. -/
def bucket (count : Nat) (name : Bytes) : Nat :=
  match name with
  | [] => 0
  | first :: _ => name.foldl (fun n b => n + b.toNat) (16 * first.toNat) % count

/-- The strings that a shell hands to the programs that it runs, in the order of its lists. -/
def environment (s : Session) : List Bytes :=
  let strings := s.values.filterMap fun (name, v) =>
    match v.value with
    | some value => if v.isExported then some (bucket bucketCount name, name ++ Environment.equals :: value) else none
    | none => none
  (List.range bucketCount).flatMap fun n => (strings.filter (·.1 = n)).map (·.2)

/-- The programs that a shell has found, in the order of its lists. -/
def trackedInOrder (s : Session) : List Bytes :=
  (List.range trackCount).flatMap fun n =>
    s.tracked.reverse.filter fun name => bucket trackCount name = n

/-- The variables that every shell begins with. -/
def standardValues : List (Bytes × Variable) :=
  [("PATH", "/usr/local/sbin:/usr/local/bin:/usr/sbin:/usr/bin:/sbin:/bin"), ("IFS", " \t\n"),
    ("PS1", "$ "), ("PS2", "> "), ("PS4", "+ "), ("OPTIND", "1")].map fun (name, value) =>
    (Utf8.encode name, ⟨some (Utf8.encode value), false, false⟩)

/-- A shell that was handed the strings of an environment, in a directory. It knows the variables
that have proper names. -/
def begin (name : Bytes) (parameters : List Bytes) (strings : List Bytes) (directory : Path) :
    Session :=
  let s := (strings.filterMap Environment.binding?).foldl
    (fun s (name, value) => if isName name then (s.assign name value).exported name else s)
    { name, parameters, values := standardValues }
  let place := Utf8.encode "PWD"
  if s.get? place = some directory then s else (s.assign place directory).exported place

/-- The number that the next job gets; a job that has been waited for gives its number away. -/
def freeNumber (s : Session) : Nat :=
  let isFree (n : Nat) : Bool := !s.jobs.any fun j => j.number = n && !(j.isDone && j.isWaited)
  (((List.range (s.jobs.length + 1)).map (· + 1)).find? isFree).getD 1

/-- A shell that has run something: a job that has been waited for may be forgotten. -/
def forgetting (s : Session) : Session :=
  let number := s.freeNumber
  { s with jobs := s.jobs.filter (·.number ≠ number) }

/-- A shell that runs processes in the background. -/
def withJob (s : Session) (pids : List Pid) : Session :=
  let s' := s.forgetting
  { s' with
    jobs := { number := s.freeNumber, members := pids.map (·, none) } :: s'.jobs
    lastJob := pids.getLast? }

def job? (s : Session) (number : Nat) : Option Job := s.jobs.find? (·.number = number)

def push (s : Session) (frames : List Frame) : Session := { s with work := frames ++ s.work }

def space : UInt8 := 0x20

/-- Texts in one, with a text between them. -/
def joinedBy (between : Bytes) : List Bytes → Bytes
  | [] => []
  | [last] => last
  | first :: rest => first ++ between ++ joinedBy between rest

/-- Texts in one, with blanks between them. -/
def joined : List Bytes → Bytes := joinedBy [space]

def decimal (n : Nat) : Bytes := Utf8.encode (toString n)

/-- The characters at which the values of variables are split. -/
def separators (s : Session) : Bytes := (s.get? (Utf8.encode "IFS")).getD [0x20, 0x09, 0x0A]

/-- What stands between the parameters where they make up one text. -/
def parameterGap (s : Session) : Bytes :=
  match s.get? (Utf8.encode "IFS") with
  | some separators => separators.take 1
  | none => [space]

/-- The value of a parameter of the shell `pid`, if it has one. -/
def value? (s : Session) (pid : Pid) (name : Bytes) : Option Bytes :=
  match name.map fun b => Char.ofNat b.toNat with
  | ['$'] => some (decimal (s.root.getD pid).toNat)
  | ['!'] => s.lastJob.map fun job => decimal job.toNat
  | ['?'] => some (decimal s.status.toNat)
  | ['#'] => some (decimal s.parameters.length)
  | ['*'] => if s.parameters.isEmpty then none else some (joinedBy s.parameterGap s.parameters)
  | ['@'] => if s.parameters.isEmpty then none else some (joined s.parameters)
  | ['-'] => some s.options.reverse
  | _ =>
    match numeral? name with
    | some 0 => some s.name
    | some (n + 1) => s.parameters[n]?
    | none => s.get? name

/-- The line of a complaint of a command: the shell, the line, and what is wrong. -/
def commandComplaint (s : Session) (text : Bytes) : Bytes :=
  s.name ++ Utf8.encode ": " ++ decimal s.line ++ Utf8.encode ": " ++ text ++ [0x0A]

/-- The line of a complaint of the shell itself, which names the command that reads the script. -/
def complaint (s : Session) (text : Bytes) : Bytes :=
  s.commandComplaint (if s.title = [] then text else s.title ++ Utf8.encode ": " ++ text)

/-- Whether a frame belongs to a loop. -/
def isLoop : Frame → Bool
  | .test .. | .again .. | .each .. => true
  | _ => false

/-- Whether a frame puts something back that must not be left out. -/
def putsBack : Frame → Bool
  | .redirect _ | .revert _ | .title _ => true
  | _ => false

/-- The loops that a command is in, within its function. -/
def loopsAround (s : Session) : Nat :=
  let inner := s.work.takeWhile fun
    | .call _ => false
    | _ => true
  (inner.filter isLoop).length + if inner.length = s.work.length then s.loops else 0

/-- What is left to do once some loops are given up; the last of them may be kept. -/
def outOfLoops (keepsLast : Bool) : Nat → List Frame → List Frame
  | 0, frames => frames
  | _ + 1, [] => []
  | n + 1, frame :: rest =>
    if isLoop frame then
      if n = 0 ∧ keepsLast then frame :: rest else outOfLoops keepsLast n rest
    else if putsBack frame then frame :: outOfLoops keepsLast (n + 1) rest
    else outOfLoops keepsLast (n + 1) rest

/-- What is left to do once a function or a file is given up. -/
def outOfCall : List Frame → List Frame
  | [] => []
  | frame :: rest =>
    match frame with
    | .call _ | .file => frame :: rest
    | _ => if putsBack frame then frame :: outOfCall rest else outOfCall rest

/-- Adds an output to those that the command at hand has collected. -/
def answered (s : Session) (output : Bytes) : Session :=
  match s.work with
  | .run command isTested answers :: rest =>
    { s with work := .run command isTested (answers ++ [output]) :: rest }
  | .assign assignments command saved isTested asked answers :: rest =>
    { s with work := .assign assignments command saved isTested asked (answers ++ [output]) :: rest }
  | _ => s

end Session

end ClockWarden.Shell
