import ClockWarden.Rehearsal.Background

/-! How a shell goes on: it takes the next thing that it has to do, or waits until what it waits for has
come about. -/

namespace ClockWarden.Rehearsal

open Host Shell

namespace World

/-- A shell goes on. -/
def proceed (w : World) (p : Process) (s : Session) : World := w.update { p with activity := .shell s }

/-- A command of a shell is over. -/
def conclude (w : World) (p : Process) (s : Session) (code : UInt8) : World :=
  w.proceed p { s with status := code }

/-- Writes a complaint; where it cannot be written, nothing happens. -/
def complain (w : World) (p : Process) (text : Bytes) : World := (w.emit p 2 text).1

/-- A script that begins with its first line. -/
def scriptOf (text : Bytes) : Source := { rest := text }

/-- Leads descriptors back. -/
def ledBack (p : Process) (saved : List (Nat × Option Nat)) : Process :=
  saved.foldl (fun p (descriptor, handle) => p.lead descriptor handle) p

/-- A process whose descriptors lead where they led before all that a shell is in the middle of. -/
def unredirected (p : Process) (s : Session) : Process :=
  s.work.foldl (fun p frame =>
    match frame with
    | .redirect saved => ledBack p saved
    | _ => p) p

/-- A shell ends, after the command that it was told to run at its end. -/
def leave (w : World) (p : Process) (s : Session) (code : UInt8) : World :=
  let p := unredirected p s
  match s.traps.find? (·.1 = ⟨0⟩) with
  | some (signal, action) =>
    w.proceed p { s with
      traps := s.traps.filter (·.1 ≠ signal), pending := [], status := code, waiting := .nothing,
      work := [.script (scriptOf action) false false, .restore code, .leave] }
  | none => w.finish p (.exited code)

/-- A shell gives up. -/
def giveUp (w : World) (p : Process) (s : Session) (text : Bytes) : World :=
  (w.complain p (s.complaint text)).leave p { s with title := [] } 2

/-- A command of a shell is over; a shell that ends at failures may end with it. -/
def settleCommand (w : World) (p : Process) (s : Session) (isTested : Bool) (code : UInt8) : World :=
  if code ≠ 0 ∧ !isTested ∧ s.hasOption 0x65 then w.leave p s code else w.conclude p s code

/-- Splits off a part of a shell. What was trapped is no longer; what was ignored stays so. -/
def fork (w : World) (p : Process) (s : Session) (isBackground : Bool) (adapt : Process → Process)
    (work : List Frame) : Pid × World :=
  let deaf : List Signal := if isBackground then [.interrupt, ⟨3⟩] else []
  let p' := adapt (if isBackground then p.lead 0 (some 0) else p)
  w.add fun pid => { p' with
    pid, parent := .process p.pid, ignored := deaf ++ p.ignored, isStopped := false, held := [],
    activity := .shell { s with
      traps := [], pending := [], jobs := [], work, waiting := .nothing, yields := true,
      hardened := deaf ++ s.hardened, loops := s.loopsAround, root := some (s.root.getD p.pid) } }

/-- Splits off the parts of a pipeline; `reader` is what the first of them reads from. -/
def forkStages (w : World) (p : Process) (s : Session) (isBackground isTested : Bool)
    (reader : Option Nat) : List Shell.Command → List Pid × World
  | [] => ([], w)
  | [last] =>
    let adapt (p : Process) : Process := if reader.isSome then p.lead 0 reader else p
    let (pid, w) := w.fork p s isBackground adapt [.run last isTested []]
    ([pid], w)
  | stage :: rest =>
    let (_, out, into, w) := w.addPipe
    let adapt (p : Process) : Process :=
      (if reader.isSome then p.lead 0 reader else p).lead 1 (some into)
    let (pid, w) := w.fork p s isBackground adapt [.run stage isTested []]
    let (pids, w) := forkStages w p s isBackground isTested (some out) rest
    (pid :: pids, w)

/-- What the words of a script in a process may depend on. -/
def surroundings (w : World) (p : Process) : Surroundings where
  pid := p.pid
  names path :=
    let files := w.filesFor p path
    match files.directory p.directory path with
    | .ok location => files.names location
    | .error _ => []
  isThere path :=
    match (w.filesFor p path).lookWith false p.directory path with
    | .ok _ => true
    | .error _ => false

/-- Expands words, and goes on with what they turn into. Where the output of a command is missing, that
command is run first, and the frame comes again. -/
def expanding {α : Type} (w : World) (p : Process) (s : Session) (frame : List Bytes → Frame)
    (answers : List Bytes) (expansion : Expansion α) (next : α → Session → World) : World :=
  match expansion.run ⟨s, answers⟩ with
  | .ok (value, e) => next value e.session
  | .error (.fails message) => w.giveUp p s message
  | .error (.asks body inner) =>
    let (pipe, _, into, w) := w.addPipe
    let (pid, w) := w.fork p inner false (·.lead 1 (some into)) [.run body false []]
    w.proceed p { s.forgetting.push [frame answers] with waiting := .output pid pipe }

/-- Where a redirection leads, its words being expanded. -/
structure Opening where
  descriptor : Nat
  arrow : Arrow
  target : Bytes

/-- Whether a text names a descriptor that another one may be led to, or none. -/
def namesDescriptor (target : Bytes) : Bool :=
  target = [0x2D] || (target.length = 1 && target.all isDigit)

/-- The openings that redirections ask for. -/
def openings (around : Surroundings) (redirections : List Redirection) : Expansion (List Opening) :=
  redirections.mapM fun
    | .mk descriptor arrow target => do
      let target ← Expansion.whole around target
      if arrow = .same && !namesDescriptor target then
        Expansion.fail (ascii "Syntax error: Bad fd number")
      return ⟨descriptor, arrow, target⟩

/-- Why a file cannot be opened, in the words of a shell. -/
def openingFault (cause : Error) (isMade : Bool) : Bytes :=
  if cause = .notFound ∨ cause = .notDirectory then
    ascii (if isMade then "Directory nonexistent" else "No such file")
  else ascii cause.cause

/-- Opens what a redirection leads to. -/
def openOne (w : World) (p : Process) (s : Session) (o : Opening) : Except Bytes (World × Process) :=
  let opened (access : Access) : Except Bytes (World × Process) :=
    match w.openPath p o.target access with
    | .ok (handle, w) => .ok (w, p.lead o.descriptor (some handle))
    | .error cause =>
      .error (ascii (if access.writes then "cannot create " else "cannot open ") ++ o.target ++
        ascii ": " ++ openingFault cause access.writes)
  match o.arrow with
  | .from => opened { reads := true }
  | .into => opened { writes := true, empties := true, spares := s.hasOption 0x43 }
  | .over => opened { writes := true, empties := true }
  | .onto => opened { writes := true, appends := true }
  | .both => opened { reads := true, writes := true }
  | .text =>
    let (handle, w) := w.addFile ⟨.text o.target, 0, false, true, false⟩
    .ok (w, p.lead o.descriptor (some handle))
  | .same =>
    if o.target = [0x2D] then .ok (w, p.lead o.descriptor none)
    else
      match (numeral? o.target).bind p.handle? with
      | some handle => .ok (w, p.lead o.descriptor (some handle))
      | none => .error (o.target ++ ascii ": Bad file descriptor")

/-- Opens what redirections lead to, one after the other, up to the first that leads nowhere. -/
def openAll (w : World) (p : Process) (s : Session) : List Opening → World × Process × Option Bytes
  | [] => (w, p, none)
  | o :: rest =>
    match w.openOne p s o with
    | .ok (w, p) => openAll w p s rest
    | .error text => (w, p, some text)

/-- Where the descriptors lead that redirections change. -/
def savedFor (p : Process) (list : List Opening) : List (Nat × Option Nat) :=
  (list.map (·.descriptor)).eraseDups.map fun descriptor => (descriptor, p.handle? descriptor)

/-- Puts variables back. -/
def reverted (s : Session) (saved : List (Bytes × Option Variable)) : Session :=
  saved.foldl (fun s (name, old) =>
    match old with
    | some v => s.put name v
    | none => s.remove name) s

/-- The code of a command that could not be run. -/
def failureCode (cause : Error) : UInt8 :=
  if cause ∈ [Error.notFound, .notDirectory, .linkLoop, .nameTooLong] then 127 else 126

/-- Why a command could not be run, in the words of a shell. -/
def failureText (cause : Error) : Bytes :=
  ascii (if cause = .notFound ∨ cause = .notDirectory then "not found" else cause.cause)

/-- A simple command whose words are known: the shell as it was, the shell with the variables that are
set for the command, and what it is run with. -/
structure Errand where
  before : Session
  after : Session
  /-- The names of the variables that are set for the command. -/
  names : List Bytes
  command : List Bytes
  /-- The process with its descriptors redirected, and how it is put back. -/
  process : Process
  saved : List (Nat × Option Nat)
  isTested : Bool

namespace Errand

/-- What is to be done behind a command that the shell runs in its own process. -/
def frames (e : Errand) (reverts : Bool) : List Frame :=
  (if reverts && !e.names.isEmpty then
    [.revert (e.names.map fun name => (name, e.before.find? name))] else []) ++
    (if e.saved.isEmpty then [] else [.redirect e.saved]) ++ if e.isTested then [] else [.check]

end Errand

/-- Runs a program, in a child unless it may take the place of the shell. -/
def external (w : World) (p : Process) (e : Errand) : World :=
  let name := (e.command.head?).getD []
  let s := if hasSlash name then e.before else e.before.track name
  let exported := e.names.foldl Session.exported e.after
  let child := { e.process with environment := exported.environment }
  match w.perform child (pathOf e.after) e.command with
  | .error cause =>
    let text := (e.command.head?).getD [] ++ ascii ": " ++ failureText cause
    (w.complain e.process (s.complaint text)).settleCommand p s e.isTested (failureCode cause)
  | .ok image =>
    if s.yields && s.work.isEmpty && s.traps.isEmpty && s.pending.isEmpty then
      w.update (child.running image)
    else
      let (pid, w) := w.add fun pid => { child.running image with
        pid, parent := .process p.pid, isStopped := false, held := [] }
      w.proceed p { s.forgetting.push (if e.isTested then [] else [.check]) with
        waiting := .command [pid] }

/-- What a shell did by itself takes effect. -/
def enact (w : World) (e : Errand) (isSpared : Bool) (a : Act) : World :=
  let p := ledBack a.process e.saved
  let (w, emission) := (w.complain a.process a.complaint).emit a.process 1 a.output
  let s := a.session
  match emission with
  | .broken => (w.conclude p s 1).send p.pid ⟨13⟩
  | .refused =>
    let name := (e.command.head?).getD []
    (w.complain a.process (s.commandComplaint (name ++ ascii ": I/O error"))).settleCommand p s e.isTested 1
  | .done =>
    if a.isFatal && !isSpared && isSpecial (wordText ((e.command.head?).getD [])) then
      w.leave p s a.code
    else w.settleCommand p s e.isTested a.code

/-- Takes the word away that has a command run by its plain name. -/
def plainCommand : List Bytes → List Bytes × Bool
  | first :: rest =>
    if first = ascii "command" then
      match rest with
      | next :: others =>
        if next = ascii "-p" ∨ next = ascii "--" then
          if (others.head?.bind (·.head?)) = some 0x2D then (first :: rest, false) else (others, true)
        else if next.head? = some 0x2D then (first :: rest, false)
        else ((plainCommand rest).1, true)
      | [] => (first :: rest, false)
    else (first :: rest, false)
  | [] => ([], false)

/-- A number that a command of a shell is given. -/
def countOf (standard : Nat) (arguments : List Bytes) : Option Nat :=
  match arguments with
  | [] => some standard
  | first :: _ => numeral? first

/-- Runs a command that is the business of the shell itself; none where there is no such command. -/
def internal? (w : World) (p : Process) (e : Errand) (isSpared : Bool) (name : String)
    (arguments : List Bytes) : Option World :=
  let s := if isSpecial name && !isSpared then e.after else e.names.foldl Session.exported e.after
  let act : Act := { world := w, process := e.process, session := s }
  let reverts : Bool := !isSpecial name || isSpared
  let finish (a : Act) : World :=
    let session := if reverts then
        reverted a.session (e.names.map fun name => (name, e.before.find? name)) else a.session
    a.world.enact e isSpared { a with session }
  let wrong : World :=
    finish (act.abort (ascii (name ++ ": Illegal number: ") ++ (arguments.head?).getD []))
  match name with
  | "exit" =>
    match countOf s.status.toNat arguments with
    | some n => some (w.leave p s (UInt8.ofNat n))
    | none => some wrong
  | "return" =>
    match countOf s.status.toNat arguments with
    | some n =>
      let work := Session.outOfCall s.work
      some (w.conclude p { s with work } (UInt8.ofNat n))
    | none => some wrong
  | "break" | "continue" =>
    match countOf 1 arguments with
    | some (n + 1) =>
      let loops := s.loopsAround
      if loops = 0 then some (finish act)
      else
        let n := if n + 1 < loops then n + 1 else loops
        let work := Session.outOfLoops (name = "continue") n s.work
        some (w.conclude p { s with work } 0)
    | _ => some wrong
  | "exec" =>
    let arguments := if arguments.head? = some (ascii "--") then arguments.drop 1 else arguments
    if arguments.isEmpty then some (w.conclude e.process s 0)
    else
      let exported := e.names.foldl Session.exported s
      let child := { e.process with environment := exported.environment }
      match w.perform child (pathOf s) arguments with
      | .ok image => some (w.update (child.running image))
      | .error cause =>
        let text := ascii "exec: " ++ (arguments.head?).getD [] ++ ascii ": " ++ failureText cause
        some ((w.complain e.process (s.commandComplaint text)).leave e.process s (failureCode cause))
  | "eval" =>
    some (w.proceed e.process ({ s with title := ascii name }.push
      (.script (scriptOf (Session.joined arguments)) e.isTested true :: .title s.title :: e.frames reverts)))
  | "." =>
    match arguments with
    | [] => some (finish act)
    | file :: _ =>
      let paths := if hasSlash file then [file] else (pathOf s).map (within · file)
      let found := paths.findSome? fun path =>
        (w.contentFor e.process path).toOption.map fun content => (path, content)
      match found with
      | some (path, content) =>
        some (w.proceed e.process ({ s with title := path }.push
          (.script (scriptOf content) false true :: .file :: .title s.title :: e.frames reverts)))
      | none =>
        some (finish (act.abort (if hasSlash file then
            ascii ".: cannot open " ++ file ++ ascii ": No such file"
          else ascii ".: " ++ file ++ ascii ": not found")))
  | "command" =>
    match arguments.dropWhile fun text => text = ascii "-p" with
    | first :: rest =>
      if first = ascii "-v" ∨ first = ascii "-V" then
        some (finish ((rest.take 1).foldl (fun a name => describe a (first = ascii "-v") name) act))
      else some (finish act)
    | [] => some (finish act)
  | "jobs" => some (finish (jobsAct act arguments))
  | "fg" | "bg" => some (finish (frontAct act name arguments))
  | "wait" =>
    let checked := s.push (if e.isTested then [] else [.check])
    match if arguments.head? = some (ascii "--") then arguments.drop 1 else arguments with
    | [] => some (w.proceed p { checked with waiting := .allJobs })
    | words =>
      match words.find? fun word => word.head? = some 0x2D with
      | some word => some (finish (act.complain 2 (ascii "wait: Illegal option " ++ word.take 2)))
      | none =>
        match awaited s words with
        | .ok numbers => some (w.proceed p { checked with waiting := .jobs numbers })
        | .error text => some (finish (act.complain 2 (ascii "wait: " ++ text)))
  | "read" =>
    some (w.proceed e.process (s.push (.reading arguments e.isTested :: e.frames reverts)))
  | "kill" =>
    match arguments with
    | [0x2D, 0x6C] :: rest =>
      let numbers := if rest = [] then (List.range 31).map (· + 1) else
        (rest.filterMap numeral?).map fun n => if 128 < n then n - 128 else n
      some (finish (act.say (unlines (numbers.map fun n => signalWord ⟨n⟩))))
    | [] => some (finish (act.abort (ascii ("kill: Usage: kill [-s sigspec | -signum | -sigspec] " ++
        "[pid | job]... or\nkill -l [exitstatus]"))))
    | _ =>
      match killTargets arguments with
      | .error text => some (finish (act.abort (ascii "kill: " ++ text)))
      | .ok (signal, targets) =>
        match targets.mapM (targetNumber s) with
        | .error text => some (finish (act.abort (ascii "kill: " ++ text)))
        | .ok targets =>
          let missing := targets.filter fun target => !(w.deliver p ⟨0⟩ target).1
          let a := missing.foldl (fun a _ => a.complain 1 (ascii "kill: No such process\n")) act
          some (targets.foldl (fun w target => (w.deliver p signal target).2) (finish a))
  | name => (builtin? act name arguments).map finish

/-- Runs a command whose words are known. -/
def invoke (w : World) (p : Process) (e : Errand) : World :=
  let (command, isSpared) := plainCommand e.command
  let e := { e with command }
  let first := (command.head?).getD []
  let name := wordText first
  let arguments := command.drop 1
  let body : Option Shell.Command :=
    if isSpared || isSpecial name then none else e.before.functions.lookup first
  match body with
  | some body =>
    let s := e.names.foldl Session.exported e.after
    w.proceed e.process ({ s with parameters := arguments }.push
      (.run body e.isTested [] :: .call e.before.parameters :: e.frames true))
  | none =>
    match w.internal? p e isSpared name arguments with
    | some w => w
    | none => w.external p e

/-- The commands whose arguments may set variables. -/
def setsVariables (word : Word) : Bool :=
  match Word.plain? word with
  | some text => [ascii "export", ascii "readonly", ascii "local"].contains text
  | none => false

/-- What the words of a command turn into; values of variables stay whole. -/
def commandWords (around : Surroundings) (words : List Word) : Expansion (List Bytes) :=
  match words with
  | first :: rest =>
    if setsVariables first then do
      let command ← Expansion.wordsOf around first
      let arguments ← rest.mapM fun word =>
        if (Reader.assignment? word).isSome then return [← Expansion.wholeValue around word]
        else Expansion.wordsOf around word
      return command ++ arguments.flatten
    else Expansion.wordsOfAll around words
  | [] => return []

/-- Shows a command that is about to be run, if a shell shows them. -/
def traced (w : World) (p : Process) (s : Session) (names : List Bytes) (command : List Bytes) : World :=
  if s.hasOption 0x78 then
    w.complain p (s.getText "PS4" ++ Session.joined (names.map (fun name =>
      name ++ 0x3D :: (s.get? name).getD []) ++ command) ++ [lineBreak])
  else w

/-- Sets the variables of a simple command, and runs it. The descriptors of the process `p'` have been
redirected; `asked` tells whether its words asked for the output of a command. -/
def assigning (w : World) (p' : Process) (s : Session) (assignments : List (Bytes × Word))
    (command : List Bytes) (saved : List (Nat × Option Nat)) (isTested asked : Bool)
    (answers : List Bytes) : World :=
  let p := ledBack p' saved
  let expansion := Expansion.assignAll (w.surroundings p') assignments
  let frame := Frame.assign assignments command saved isTested asked
  let behind := if saved.isEmpty then s else s.push [.redirect saved]
  w.expanding p' behind frame answers expansion fun _ after =>
    let after := { after with work := s.work }
    let names := assignments.map (·.1)
    let w := w.traced p after names command
    if command.isEmpty then
      w.settleCommand p after isTested (if asked || !answers.isEmpty then s.outputStatus else 0)
    else w.invoke p ⟨s, after, names, command, p', saved, isTested⟩

/-- Runs a simple command. -/
def simple (w : World) (p : Process) (s : Session) (isTested : Bool) (answers : List Bytes)
    (frame : List Bytes → Frame) (assignments : List (Bytes × Word)) (words : List Word)
    (redirections : List Redirection) : World :=
  let around := w.surroundings p
  let expansion : Expansion (List Bytes × List Opening) := do
    let command ← commandWords around words
    let list ← openings around redirections
    return (command, list)
  w.expanding p s frame answers expansion fun (command, list) s =>
    let (w, p', fault) := w.openAll p s list
    match fault with
    | some text =>
      let w := w.complain p' (s.complaint text)
      if isSpecial (wordText ((command.head?).getD [])) then w.leave p s 2
      else w.settleCommand p s isTested 2
    | none => w.assigning p' s assignments command (savedFor p list) isTested (!answers.isEmpty) []

/-- Begins a command of a script. -/
def begin (w : World) (p : Process) (s : Session) (isTested : Bool) (answers : List Bytes)
    (command : Shell.Command) : World :=
  let frame (answers : List Bytes) : Frame := .run command isTested answers
  let around := w.surroundings p
  let checked : List Frame := if isTested then [] else [.check]
  match command with
  | .nothing => w.conclude p s 0
  | .simple line assignments words redirections =>
    w.simple p { s with line } isTested answers frame assignments words redirections
  | .sequence first second => w.proceed p (s.push [.run first isTested [], .run second isTested []])
  | .both first second => w.proceed p (s.push [.run first true [], .ifGood second isTested])
  | .either first second => w.proceed p (s.push [.run first true [], .ifBad second isTested])
  | .negated body => w.proceed p (s.push [.run body true [], .negate])
  | .branch condition yes no =>
    w.proceed p (s.push [.run condition true [], .choose yes no isTested])
  | .loop isUntil condition body =>
    w.proceed p (s.push [.run condition true [], .test isUntil condition body isTested 0])
  | .each name words body =>
    let values : Expansion (List Bytes) := match words with
      | some words => Expansion.wordsOfAll around words
      | none => return s.parameters
    w.expanding p s frame answers values fun values s =>
      if values.isEmpty then w.conclude p s 0
      else w.proceed p (s.push [.each name values body isTested])
  | .choice word branches =>
    let chosen : Expansion (Option Shell.Command) := do
      Expansion.chosen around (← Expansion.whole around word) branches
    w.expanding p s frame answers chosen fun body s =>
      match body with
      | some body => w.proceed p (s.push [.run body isTested []])
      | none => w.conclude p s 0
  | .pipeline stages =>
    let (pids, w) := w.forkStages p s false isTested none stages
    w.proceed p { s.forgetting.push checked with waiting := .command pids }
  | .background (.pipeline stages) =>
    let (pids, w) := w.forkStages p s true false none stages
    w.proceed p { s.withJob pids with status := 0 }
  | .background body =>
    let (pid, w) := w.fork p s true id [.run body false []]
    w.proceed p { s.withJob [pid] with status := 0 }
  | .subshell body =>
    if s.yields && s.work.isEmpty && s.traps.isEmpty && s.pending.isEmpty then
      w.proceed p (s.push [.run body isTested []])
    else
      let (pid, w) := w.fork p s false id [.run body isTested []]
      w.proceed p { s.forgetting.push checked with waiting := .command [pid] }
  | .redirected body redirections =>
    w.expanding p s frame answers (openings around redirections) fun list s =>
      match w.openAll p s list with
      | (w, p', some text) => (w.complain p' (s.complaint text)).conclude p s 2
      | (w, p', none) => w.proceed p' (s.push [.run body isTested [], .redirect (savedFor p list)])
  | .function name body =>
    w.conclude p { s with functions := (name, body) :: s.functions.filter (·.1 ≠ name) } 0

/-- The first line of what can be read, with the characters that backslashes protect marked, how long it
is, and whether it is complete. -/
def inputLine (isRaw : Bool) : Nat → Bytes → List Marked × Nat × Bool
  | 0, _ => ([], 0, false)
  | n + 1, text =>
    match text with
    | [] => ([], 0, false)
    | 0x5C :: rest =>
      if isRaw then
        let (line, length, isWhole) := inputLine isRaw n rest
        ((0x5C, false) :: line, length + 1, isWhole)
      else
        match rest with
        | [] => ([], 1, false)
        | b :: rest =>
          let (line, length, isWhole) := inputLine isRaw n rest
          (if b = lineBreak then line else (b, true) :: line, length + 2, isWhole)
    | b :: rest =>
      if b = lineBreak then ([], 1, true)
      else
        let (line, length, isWhole) := inputLine isRaw n rest
        ((b, false) :: line, length + 1, isWhole)

/-- Splits a line among so many variables; the last one gets all that is left. -/
def portions (separators : Bytes) : Nat → List Marked → List Bytes
  | 0, _ => []
  | n + 1, line =>
    let isGap (c : Marked) : Bool := !c.2 && c.1 ∈ [0x20, 0x09, 0x0A] && separators.contains c.1
    let isEnd (c : Marked) : Bool := !c.2 && separators.contains c.1
    let line := line.dropWhile isGap
    if n = 0 then
      let text := (line.reverse.dropWhile isGap).reverse
      let parts := Expansion.fieldsOf separators (text.map fun c => .byte c.1 c.2 (!c.2))
      let only := match parts with
        | [only] => only
        | _ => text
      [only.map (·.1)]
    else
      let first := line.takeWhile fun c => !isEnd c
      let rest := (line.drop first.length).dropWhile isGap
      let rest := match line.drop first.length, rest with
        | c :: _, d :: others => if isGap c ∧ isEnd d ∧ !isGap d then others else
            if isGap c then rest else (line.drop first.length).drop 1
        | _ :: others, [] => if isGap ((line.drop first.length).headD (0, false)) then [] else others
        | [], _ => []
      first.map (·.1) :: portions separators n rest

/-- Reads a line into variables, or waits for one. -/
def readLine (w : World) (p : Process) (s : Session) (isTested : Bool) (arguments : List Bytes) :
    World :=
  let isRaw : Bool := arguments.head? = some (ascii "-r")
  let names := arguments.dropWhile fun text => text = ascii "-r"
  let names := if names.head? = some (ascii "-p") then names.drop 2 else names
  let finish (w : World) (s : Session) (code : UInt8) : World := w.conclude p s code
  if names.isEmpty then finish (w.complain p (s.commandComplaint (ascii "read: arg count"))) s 2
  else
    match w.input? p 0 with
      | none => finish w s 1
      | some input =>
        let (line, length, isWhole) := inputLine isRaw (input.text.length + 1) input.text
        if !isWhole && !input.isComplete then
          w.proceed p { s.push [.reading arguments isTested] with waiting := .line }
        else
          let values := portions s.separators names.length line
          let w := w.advance p 0 length
          let good := names.takeWhile fun name => isName name && !s.isReadonly name
          let s := (good.zip (values ++ List.replicate names.length [])).foldl
            (fun s (name, value) => s.assign name value) s
          match names.drop good.length with
          | bad :: _ =>
            let cause := if isName bad then ": is read only" else ": bad variable name"
            finish (w.complain p (s.commandComplaint (ascii "read: " ++ bad ++ ascii cause))) s 2
          | [] => finish w s (if isWhole then 0 else 1)

/-- Carries out a frame. -/
def carryOut (w : World) (p : Process) (s : Session) (frame : Frame) : World :=
  match frame with
  | .run command isTested answers =>
    if s.hasOption 0x6E then w.proceed p s else w.begin p s isTested answers command
  | .assign assignments command saved isTested asked answers =>
    let s := if saved.isEmpty then s else { s with work := s.work.drop 1 }
    w.assigning p s assignments command saved isTested asked answers
  | .script rest isTested isNew =>
    match Reader.line { rest with aliases := s.aliases } with
    | .error fault => w.giveUp p { s with line := fault.line } (ascii fault.message)
    | .ok none => if isNew then w.conclude p s 0 else w.proceed p s
    | .ok (some (command, behind)) =>
      w.proceed p (s.push (.run command isTested [] ::
        (behind.map fun behind => Frame.script behind isTested false).toList))
  | .ifGood command isTested =>
    w.proceed p (if s.status = 0 then s.push [.run command isTested []] else s)
  | .ifBad command isTested =>
    w.proceed p (if s.status = 0 then s else s.push [.run command isTested []])
  | .negate => w.conclude p s (if s.status = 0 then 1 else 0)
  | .choose yes no isTested =>
    w.proceed p (s.push [.run (if s.status = 0 then yes else no) isTested []])
  | .test isUntil condition body isTested last =>
    if (s.status = 0) ≠ isUntil then
      w.proceed p (s.push [.run body isTested [], .again isUntil condition body isTested])
    else w.conclude p s last
  | .again isUntil condition body isTested =>
    w.proceed p (s.push [.run condition true [], .test isUntil condition body isTested s.status])
  | .each _ [] _ _ => w.proceed p s
  | .each name (value :: others) body isTested =>
    if s.isReadonly name then w.giveUp p s (name ++ ascii ": is read only")
    else
      w.proceed p ((s.assign name value).push [.run body isTested [], .each name others body isTested])
  | .reading arguments isTested => w.readLine p s isTested arguments
  | .check => if s.status ≠ 0 ∧ s.hasOption 0x65 then w.leave p s s.status else w.proceed p s
  | .redirect saved => w.proceed (ledBack p saved) s
  | .revert saved => w.proceed p (reverted s saved)
  | .call parameters => w.proceed p { s with parameters }
  | .file => w.proceed p s
  | .title name => w.proceed p { s with title := name }
  | .restore status => w.conclude p s status
  | .leave => w.leave p s s.status

/-- The command that a signal was trapped with. -/
def trapAction (s : Session) (signal : Signal) : Bytes :=
  ((s.traps.find? (·.1 = signal)).map (·.2)).getD []

/-- A step of a shell that does not wait. -/
def stepReady (w : World) (p : Process) (s : Session) : World :=
  match s.pending with
  | signal :: others =>
    w.proceed p ({ s with pending := others }.push
      [.script (scriptOf (trapAction s signal)) false false, .restore s.status])
  | [] =>
    match s.work with
    | [] => w.leave p s s.status
    | frame :: work => w.carryOut p { s with work } frame

/-- Whether a shell that waits has something to do. -/
def isShellReady (w : World) (p : Process) (s : Session) : Bool :=
  match s.waiting with
  | .nothing => true
  | .command pids => pids.all w.isOver
  | .output pid pipe => w.isOver pid && !w.hasWriter pipe
  | .jobs numbers => !s.pending.isEmpty || (numbers.filterMap (·.bind s.job?)).all w.isJobOver
  | .allJobs => !s.pending.isEmpty || s.jobs.all w.isJobOver
  | .line =>
    !s.pending.isEmpty ||
      match w.input? p 0 with
      | some input => input.isComplete || input.text.contains lineBreak
      | none => true

/-- The output of a command, as it is put in its place: without line breaks at its end. -/
def trimmed (output : Bytes) : Bytes :=
  ((output.filter (· ≠ 0)).reverse.dropWhile (· = lineBreak)).reverse

/-- A step of a shell that is ready. -/
def stepShell (w : World) (p : Process) (s : Session) : World :=
  let awake := { s with waiting := .nothing }
  match s.waiting with
  | .nothing => w.stepReady p s
  | .command pids =>
    let (code, text, w) := w.reapAll pids
    let (_, s, w) := w.learnAll awake fun _ => false
    (w.complain p text).conclude p s code
  | .output pid pipe =>
    let (code, text, w) := w.reapCode pid
    let (_, s, w) := w.learnAll awake fun _ => false
    let output := trimmed ((w.pipes[pipe]?).getD [])
    let w := { w with pipes := w.pipes.modify pipe fun _ => [] }
    (w.complain p text).proceed p { s.answered output with outputStatus := code }
  | .jobs numbers =>
    match s.pending with
    | signal :: _ => w.conclude p awake (UInt8.ofNat (128 + signal.number))
    | [] =>
      let (text, s, w) := w.learnAll awake fun number => numbers.contains (some number)
      let code := (((numbers.getLast?.bind id).bind s.job?).bind Job.status?).map codeOf
      let jobs := s.jobs.map fun j =>
        if numbers.contains (some j.number) then { j with isWaited := true } else j
      (w.complain p text).conclude p { s with jobs } (code.getD 127)
  | .allJobs =>
    match s.pending with
    | signal :: _ => w.conclude p awake (UInt8.ofNat (128 + signal.number))
    | [] =>
      let (_, s, w) := w.learnAll awake fun _ => false
      w.conclude p { s with jobs := s.jobs.map ({ · with isWaited := true }) } 0
  | .line => w.stepReady p awake

end World

end ClockWarden.Rehearsal
