import ClockWarden.Rehearsal.Flow
import ClockWarden.Rehearsal.Tool.Facts

/-! How the programs of a rehearsed host go on. Most of them do their work in one step; some run another
program, in their own place or in a child. -/

namespace ClockWarden.Rehearsal

open Host Shell

namespace World

/-- A program says what it has to say, up to what nobody can read. -/
def utter (w : World) (p : Process) : List Utterance → World × Emission
  | [] => (w, .done)
  | .complained text :: rest => utter (w.complain p text) p rest
  | .shown text :: rest =>
    match w.emit p 1 text with
    | (w, .done) => utter w p rest
    | (w, other) => (w, other)

/-- Ends a program with what it has to say; one whose output nobody can read is ended by a signal. -/
def closeProgram (w : World) (p : Process) (said : List Utterance) (code : UInt8) : World :=
  let (w, emission) := w.utter p said
  match emission with
  | .done => w.finish p (.exited code)
  | .refused => w.finish p (.exited 1)
  | .broken =>
    if p.ignored.contains ⟨13⟩ then w.finish p (.exited 1) else w.finish p (.signaled ⟨13⟩)

/-- The name that the complaints of a program begin with: what it was called by, or the last part of
that. -/
def titleOf (p : Process) (name : String) : Bytes :=
  if name = "setsid" ∨ name = "rev" then ascii name else (p.arguments.head?).getD []

/-- Ends a program that cannot do what it is asked. -/
def failProgram (w : World) (p : Process) (name : String) (code : UInt8) (text : Bytes) : World :=
  w.closeProgram p [.complained (titleOf p name ++ ascii ": " ++ text ++ [lineBreak])] code

/-- The line that sends a user to the help. -/
def helpLineOf (p : Process) (name : String) : Bytes :=
  ascii "Try '" ++ titleOf p name ++ ascii " --help' for more information."

/-- Ends a program that makes no sense of its arguments. -/
def misuseProgram (w : World) (p : Process) (name : String) (code : UInt8) (text : Bytes) : World :=
  w.failProgram p name code (text ++ lineBreak :: helpLineOf p name)

/-- The code of a program that another one could not run. -/
def executionCode (cause : Error) : UInt8 := if cause = .notFound then 127 else 126

/-- Another program takes the place of one. -/
def become (w : World) (p : Process) (name : String) (isBrief : Bool) (command : List Bytes) : World :=
  match w.perform p (searchPath p) command with
  | .ok image => w.update (p.running image)
  | .error cause =>
    let program := (command.head?).getD []
    let isSplit : Bool := name = "env" && program.any fun b => b = 0x20 || b = 0x09
    let hint := if isSplit && cause = .notFound then
        lineBreak :: titleOf p name ++ ascii ": use -[v]S to pass options in shebang lines"
      else []
    w.failProgram p name (executionCode cause)
      ((if isBrief then quoted program else ascii "failed to run command " ++ quoted program) ++
        ascii (": " ++ cause.cause) ++ hint)

/-- Runs another program in a child. -/
def runChild (w : World) (p : Process) (name : String) (isBrief : Bool) (group : Pid)
    (command : List Bytes) (watch : Pid → Watch) : World :=
  match w.perform p (searchPath p) command with
  | .error cause =>
    let program := (command.head?).getD []
    w.failProgram p name (executionCode cause)
      ((if isBrief then program else ascii "failed to run command " ++ quoted program) ++
        ascii (": " ++ cause.cause))
  | .ok image =>
    let (pid, w) := w.add fun pid => { p.running image with
      pid, parent := .process p.pid, group, isStopped := false, held := [] }
    w.update { p with activity := .watching (watch pid) }

/-- Splits a text into words as it stands in the first line of a script: quotes keep blanks, a backslash
stands for other characters, and names of variables between braces for their values. Each step takes a
character. -/
def splitWords (value? : Bytes → Option Bytes) : Nat → Option UInt8 → Option Bytes → Bytes →
    Except Bytes (List Bytes)
  | 0, _, word, _ => .ok word.toList
  | n + 1, quote, word, text =>
    let go (b : UInt8) (rest : Bytes) : Except Bytes (List Bytes) :=
      splitWords value? n quote (some (word.getD [] ++ [b])) rest
    match text with
    | [] => if quote.isSome then .error (ascii "no terminating quote in -S string") else .ok word.toList
    | 0x5C :: b :: rest =>
      if quote = some 0x27 then
        if b = 0x27 ∨ b = 0x5C then go b rest else
          splitWords value? n quote (some (word.getD [] ++ [0x5C, b])) rest
      else if b ∈ [0x22, 0x23, 0x24, 0x27, 0x5C] then go b rest
      else if b = 0x63 ∧ quote.isNone then .ok word.toList
      else if b = 0x5F then
        if quote.isSome then go 0x20 rest
        else do
          let others ← splitWords value? n none none rest
          return word.toList ++ others
      else
        match [(0x66, 0x0C), (0x6E, 0x0A), (0x72, 0x0D), (0x74, 0x09), (0x76, 0x0B)].lookup b with
        | some c => go c rest
        | none => .error (ascii "invalid sequence '\\" ++ [b] ++ ascii "' in -S")
    | [0x5C] => .error (ascii "invalid backslash at end of string in -S")
    | 0x24 :: rest =>
      if quote = some 0x27 then go 0x24 rest
      else
        match rest with
        | 0x7B :: rest =>
          let name := rest.takeWhile (· ≠ 0x7D)
          splitWords value? n quote (some (word.getD [] ++ (value? name).getD [])) (rest.drop (name.length + 1))
        | _ => .error (ascii "only $\x7bVARNAME\x7d expansion is supported, error at: $" ++ rest)
    | b :: rest =>
      if b = 0x22 ∨ b = 0x27 then
        if quote = some b then splitWords value? n none word rest
        else if quote.isSome then go b rest
        else splitWords value? n (some b) (some (word.getD [])) rest
      else if quote.isNone && b ∈ [0x20, 0x09, 0x0A, 0x0B, 0x0C, 0x0D] then do
        let others ← splitWords value? n none none rest
        return word.toList ++ others
      else if b = 0x23 ∧ quote.isNone ∧ word.isNone then .ok []
      else go b rest

/-- Puts the words of a text in its place among arguments, where an option says so. -/
def splitArguments (p : Process) (arguments : List Bytes) : Except Bytes (List Bytes) :=
  let split (text : Bytes) (rest : List Bytes) : Except Bytes (List Bytes) := do
    return (← splitWords (fun name => p.valueOf? (wordText name)) (text.length + 1) none none text) ++ rest
  match arguments with
  | [0x2D, 0x53] :: text :: rest => split text rest
  | (0x2D :: 0x53 :: text) :: rest => split text rest
  | first :: [0x2D, 0x53] :: text :: rest =>
    if first = ascii "-i" then (split text rest).map (first :: ·) else .ok arguments
  | first :: rest =>
    let long := ascii "--split-string="
    if long.isPrefixOf first then split (first.drop long.length) rest else .ok arguments
  | [] => .ok []

/-- Begins a program that runs another one in a changed environment. -/
def beginEnv (w : World) (p : Process) (arguments : List Bytes) : World :=
  let long := [("ignore-environment", 'i'), ("unset", 'u'), ("null", '0'), ("chdir", 'C')]
  match splitArguments p arguments,
      (splitArguments p arguments).bind
        (Options.read { plain := "i0v", valued := "uC", long, endsEarly := true }) with
  | .error text, _ => w.failProgram p "env" 125 text
  | .ok _, .error text => w.misuseProgram p "env" 125 text
  | .ok _, .ok o =>
    let isEmptied : Bool := o.has 'i' || o.rest.head? = some [0x2D]
    let rest := if o.rest.head? = some [0x2D] then o.rest.drop 1 else o.rest
    let bound (name : Bytes) (string : Bytes) : Bool := (name ++ [Environment.equals]).isPrefixOf string
    let strings := if isEmptied then [] else p.environment
    let strings := (o.given.filter (·.1 == 'u')).foldl (fun strings entry =>
      strings.filter fun string => !bound entry.2 string) strings
    let isSetting (word : Bytes) : Bool := word.contains Environment.equals
    let strings := (rest.takeWhile isSetting).foldl (fun strings word =>
      let name := word.takeWhile (· ≠ Environment.equals)
      if strings.any (bound name) then strings.map fun string => if bound name string then word else string
      else strings ++ [word]) strings
    let p := { p with environment := strings }
    let place? : Except Error Location := match o.value? 'C' with
      | some path => (w.filesFor p path).directory p.directory path
      | none => .ok p.directory
    match place?, rest.dropWhile isSetting with
    | .error cause, _ =>
      w.failProgram p "env" 125 (ascii "cannot change directory to " ++
        quoted ((o.value? 'C').getD []) ++ ascii (": " ++ cause.cause))
    | .ok _, [] =>
      let ending : UInt8 := if o.has '0' then 0 else lineBreak
      w.closeProgram p [.shown (strings.flatMap (· ++ [ending]))] 0
    | .ok directory, command => w.become { p with directory } "env" true command

/-- Begins a program that runs another one for a while. -/
def beginTimeout (w : World) (p : Process) (arguments : List Bytes) : World :=
  let long := [("signal", 's'), ("kill-after", 'k'), ("preserve-status", 'p'), ("foreground", 'f'),
    ("verbose", 'v')]
  match Options.read { plain := "pfv", valued := "sk", long, endsEarly := true } arguments with
  | .error text => w.misuseProgram p "timeout" 125 text
  | .ok o =>
    match o.rest with
    | length :: first :: others =>
      let signal? : Option Signal := match o.value? 's' with
        | some word => (signalOf? word).orElse fun _ => Signal.ofName? (wordText word)
        | none => some .terminate
      match ToolCall.lengthOf? length, signal? with
      | none, _ => w.misuseProgram p "timeout" 125 (ascii "invalid time interval " ++ quoted length)
      | _, none =>
        w.misuseProgram p "timeout" 125 (quoted ((o.value? 's').getD []) ++ ascii ": invalid signal")
      | some nanos, some signal =>
        let deadline : Instant := match nanos with
          | some 0 | none => ⟨Instant.limit⟩
          | some n => ⟨w.now.nanos + n⟩
        let inForeground := o.has 'f'
        let p := if inForeground then p else { p with group := p.pid }
        w.runChild p "timeout" false p.group (first :: others) fun child =>
          { child, deadline := some deadline, signal, inForeground, passesOn := o.has 'p',
            killAfter := ((o.value? 'k').bind ToolCall.lengthOf?).bind id }
    | _ => w.closeProgram p [.complained (helpLineOf p "timeout" ++ [lineBreak])] 125

/-- The words of a text between blanks, with quotes taken away; each step takes a character. -/
def quotedWords : Nat → Bytes → Option Bytes → List Bytes
  | 0, _, word => word.toList
  | n + 1, text, word =>
    match text with
    | [] => word.toList
    | b :: rest =>
      if b = 0x27 ∨ b = 0x22 then
        let inner := rest.takeWhile (· ≠ b)
        quotedWords n (rest.drop (inner.length + 1)) (some (word.getD [] ++ inner))
      else if b = 0x5C then
        quotedWords n (rest.drop 1) (some (word.getD [] ++ rest.take 1))
      else if b = 0x20 ∨ b = 0x09 ∨ b = lineBreak then word.toList ++ quotedWords n rest none
      else quotedWords n rest (some (word.getD [] ++ [b]))

/-- Puts a text wherever another one stands within a text; each step takes a character. -/
def replacedIn (mark text : Bytes) : Nat → Bytes → Bytes
  | 0, rest => rest
  | n + 1, rest =>
    match rest with
    | [] => []
    | b :: others =>
      if !mark.isEmpty && mark.isPrefixOf rest then text ++ replacedIn mark text n (rest.drop mark.length)
      else b :: replacedIn mark text n others

/-- Splits words into groups of a size. -/
def grouped (size : Nat) : Nat → List Bytes → List (List Bytes)
  | 0, _ => []
  | n + 1, words =>
    if words.isEmpty then [] else words.take size :: grouped size n (words.drop size)

/-- Runs the next of the commands that a program was told to run one after the other. -/
def runNext (w : World) (p : Process) (code : UInt8) : List (List Bytes) → World
  | [] => w.finish p (.exited code)
  | command :: next =>
    w.runChild p "xargs" true p.group command fun child => { child, next, code }

/-- Begins a program that runs another one with what it reads as arguments. -/
def beginXargs (w : World) (p : Process) (arguments : List Bytes) : World :=
  match Options.read { plain := "0rtpx", valued := "nILPds", endsEarly := true } arguments with
  | .error text => w.misuseProgram p "xargs" 1 text
  | .ok o =>
    match w.input? p 0 with
    | none => w.runNext p 0 []
    | some input =>
      if !input.isComplete then w.update { p with activity := .program "xargs" (some input.text.length) }
      else
        let w := w.advance p 0 input.text.length
        let p := p.lead 0 (some 0)
        let command := if o.rest.isEmpty then [ascii "echo"] else o.rest
        let lines := (linesOf input.text).1
        let words := if o.has '0' then (partsAt (· = 0) input.text).filter (· ≠ [])
          else
            match (o.value? 'd').bind List.head? with
            | some b => partsAt (· = b) (if input.text.getLast? = some b then input.text.dropLast
                else input.text)
            | none => quotedWords (input.text.length + 1) input.text none
        let commands := match o.value? 'I' with
          | some mark =>
            ((lines.map fun line => line.dropWhile ToolCall.isGap).filter (· ≠ [])).map fun line =>
              command.map fun word => replacedIn mark line (word.length + 1) word
          | none =>
            let size := ((o.value? 'n').bind numeral?).getD (words.length + 1)
            let groups := grouped size (words.length + 1) words
            if groups.isEmpty then (if o.has 'r' then [] else [command])
            else groups.map (command ++ ·)
        w.runNext p 0 commands

/-- Begins a program that runs another one in a session of its own. -/
def beginSession (w : World) (p : Process) (arguments : List Bytes) : World :=
  match Options.read { plain := "cfw", long := [("fork", 'f'), ("wait", 'w')], endsEarly := true }
      arguments with
  | .error text => w.misuseProgram p "setsid" 1 text
  | .ok o =>
    if o.rest.isEmpty then w.misuseProgram p "setsid" 1 (ascii "no command specified")
    else if p.group = p.pid ∨ o.has 'f' then
      let isMissing : Option Error := match w.perform p (searchPath p) o.rest with
        | .error cause => some cause
        | .ok _ => none
      match isMissing, w.perform p (searchPath p) o.rest with
      | none, .ok image =>
        let (pid, w) := w.add fun pid => { p.running image with
          pid, parent := .process p.pid, group := pid, session := pid, isStopped := false, held := [] }
        if o.has 'w' then w.update { p with activity := .watching { child := pid } }
        else w.finish p (.exited 0)
      | cause, _ =>
        let w := w.complain p (ascii "setsid: failed to execute " ++ (o.rest.head?).getD [] ++
          ascii (": " ++ (cause.getD .notFound).cause ++ "\n"))
        w.finish p (.exited 0)
    else
      let p := { p with group := p.pid, session := p.pid }
      match w.perform p (searchPath p) o.rest with
      | .ok image => w.update (p.running image)
      | .error cause =>
        w.failProgram p "setsid" (executionCode cause) (ascii "failed to execute " ++
          (o.rest.head?).getD [] ++ ascii (": " ++ cause.cause))

/-- Begins a program that another one follows in its place. -/
def beginPrelude (w : World) (p : Process) (name : String) (valued : String) (arguments : List Bytes) :
    World :=
  let arguments := if name = "nice" then ToolCall.withCount [0x2D] arguments else arguments
  match Options.read { valued, endsEarly := true } arguments with
  | .error text => w.misuseProgram p name 125 text
  | .ok o =>
    let p := if name = "nohup" then { p with ignored := .hangup :: p.ignored } else p
    if o.rest.isEmpty then
      if name = "nice" then w.closeProgram p [.shown (ascii "0\n")] 0
      else w.misuseProgram p name 125 (ascii "missing operand")
    else w.become p name (name = "nice") o.rest

/-- Begins a program that lets time pass. -/
def beginSleep (w : World) (p : Process) (arguments : List Bytes) : World :=
  match Options.read {} arguments with
  | .error text => w.misuseProgram p "sleep" 1 text
  | .ok o =>
    if o.rest.isEmpty then w.misuseProgram p "sleep" 1 (ascii "missing operand")
    else
      match o.rest.filter fun argument => (ToolCall.lengthOf? argument).isNone with
      | [] =>
        let lengths := o.rest.map fun argument => (ToolCall.lengthOf? argument).join
        if lengths.any Option.isNone then w.update { p with activity := .sleeping ⟨Instant.limit⟩ }
        else
          let total := (lengths.filterMap id).foldl Nat.add 0
          w.update { p with activity := .sleeping ⟨w.now.nanos + total⟩ }
      | bad =>
        w.misuseProgram p "sleep" 1 (Session.joinedBy (lineBreak :: titleOf p "sleep" ++ ascii ": ")
          (bad.map fun argument => ascii "invalid time interval " ++ quoted argument))

/-- How a shell is begun: its options, and where its script comes from. -/
structure ShellCall where
  options : Bytes := []
  readsCommand : Bool := false
  rest : List Bytes := []
  fault : Option Bytes := none

/-- Reads the arguments of a shell. -/
def shellCall : ShellCall → List Bytes → ShellCall
  | call, [] => call
  | call, argument :: next =>
    match argument with
    | [0x2D, 0x2D] => { call with rest := next }
    | [0x2D] => { call with rest := next }
    | sign :: letters =>
      if (sign = 0x2D ∨ sign = 0x2B) ∧ letters ≠ [] then
        let known := letters.filter fun letter => optionNames.any (·.1 = letter)
        match letters.find? fun letter => letter ≠ 0x63 && letter ≠ 0x6F && letter ≠ 0x6C &&
            !known.contains letter with
        | some bad => { call with fault := some (ascii "Illegal option -" ++ [bad]) }
        | none =>
          let options := if sign = 0x2D then call.options ++ known
            else call.options.filter (!known.contains ·)
          let call := { call with options, readsCommand := call.readsCommand || letters.contains 0x63 }
          if letters.contains 0x6F then
            match next with
            | name :: next =>
              match optionNames.find? fun entry => ascii entry.2 = name with
              | some (letter, _) => shellCall { call with options := call.options ++ [letter] } next
              | none => { call with fault := some (ascii "Illegal option -o " ++ name) }
            | [] => call
          else shellCall call next
      else { call with rest := argument :: next }
    | [] => { call with rest := argument :: next }

/-- Begins a shell. -/
def beginShell (w : World) (p : Process) : World :=
  let own := (p.arguments.head?).getD []
  let call := shellCall {} (p.arguments.drop 1)
  let fail (text : Bytes) : World :=
    (w.complain p (own ++ ascii ": 0: " ++ text ++ [lineBreak])).finish p (.exited 2)
  let place := (p.valueOf? "PWD").getD []
  let isPlace : Bool := place.head? = some Path.slash &&
    match w.files.directory [] place with
    | .ok location => location = p.directory
    | .error _ => false
  let directory := if isPlace then place else Files.pathOf p.directory
  let start (name : Bytes) (parameters : List Bytes) (text : Bytes) (yields : Bool) : World :=
    let s := (Session.begin name parameters p.environment directory).assign (ascii "PPID")
      (Session.decimal p.parent.pid.toNat)
    let s := call.options.foldl (fun s letter => withOption s letter true) s
    w.proceed p { s with work := [.script (scriptOf text) false true], hardened := p.ignored, yields }
  match call.fault, call.rest with
  | some text, _ => fail text
  | none, [] =>
    if call.readsCommand then fail (ascii "-c requires an argument")
    else
      match w.input? p 0 with
      | none => w.finish p (.exited 0)
      | some input =>
        if !input.isComplete then w.update { p with activity := .program "dash" (some input.text.length) }
        else
          let s := (Session.begin own [] p.environment directory).assign (ascii "PPID")
            (Session.decimal p.parent.pid.toNat)
          (w.advance p 0 input.text.length).proceed p
            { s with work := [.script (scriptOf input.text) false true], hardened := p.ignored }
  | none, first :: rest =>
    if call.readsCommand then start ((rest.head?).getD own) (rest.drop 1) first false
    else if call.options.contains 0x73 then
      match w.input? p 0 with
      | some input =>
        if !input.isComplete then w.update { p with activity := .program "dash" (some input.text.length) }
        else start own call.rest input.text false
      | none => w.finish p (.exited 0)
    else
      match w.lookFor p first, w.contentFor p first with
      | .ok (_, .directory), _ => start first rest [] false
      | _, .ok content => start first rest content false
      | _, .error cause => fail (ascii "cannot open " ++ first ++ ascii ": " ++ openingFault cause false)

/-- What the loader says about a library that is to be loaded first: that it is not there, or is none. -/
def preloadComplaints (w : World) (p : Process) : Bytes :=
  let names := (partsAt (fun b => b = 0x20 || b = 0x3A) ((p.valueOf? "LD_PRELOAD").getD [])).filter (· ≠ [])
  names.flatMap fun name =>
    let cause := match if hasSlash name then w.contentFor p name else .error .notFound with
      | .ok content => if content.length < 64 then "file too short" else "invalid ELF header"
      | .error _ => "cannot open shared object file"
    ascii "ERROR: ld.so: object '" ++ name ++ ascii ("' from LD_PRELOAD cannot be preloaded (" ++
      cause ++ "): ignored.\n")

/-- How much a pipe holds before those who write to it have to wait. -/
def pipeSize : Nat := 65536

/-- How much is in the pipe that a process writes to. -/
def unread (w : World) (p : Process) : Nat :=
  match (w.fileOf? p 1).map OpenFile.channel with
  | some (.writer pipe) => ((w.pipes[pipe]?).getD []).length
  | _ => 0

/-- Whether a program waits for more than is in a pipe. -/
def isAwaited (w : World) (pipe : Nat) : Bool :=
  w.processes.any fun q =>
    match q.activity with
    | .program _ (some seen) =>
      decide ((w.fileOf? q 0).map OpenFile.channel = some (.reader pipe)) &&
        decide (((w.pipes[pipe]?).getD []).length ≤ seen)
    | _ => false

/-- A step of a program. -/
def stepProgram (w : World) (p : Process) (name : String) (seen : Option Nat) : World :=
  let w := if seen.isNone then w.complain p (w.preloadComplaints p) else w
  let arguments := p.arguments.drop 1
  match name with
  | "dash" => w.beginShell p
  | "sleep" => w.beginSleep p arguments
  | "env" => w.beginEnv p arguments
  | "timeout" => w.beginTimeout p arguments
  | "setsid" => w.beginSession p arguments
  | "nohup" => w.beginPrelude p name "" arguments
  | "nice" => w.beginPrelude p name "n" arguments
  | "xargs" => w.beginXargs p arguments
  | "yes" =>
    let line := (if arguments.isEmpty then ascii "y" else Session.joined arguments) ++ [lineBreak]
    match w.emit p 1 (List.replicate (512 + w.unread p / line.length) line).flatten with
    | (w, .done) => w.update { p with activity := .program name (some 0) }
    | (w, .refused) => w.finish p (.exited 1)
    | (w, .broken) => w.finish p (.signaled ⟨13⟩)
  | _ =>
    match ToolCall.tool? name with
    | none => w.finish p (.exited 0)
    | some tool =>
      let input := (w.input? p 0).getD ⟨[], true⟩
      match tool ⟨w, p, name, titleOf p name, arguments, input⟩ with
      | .waits => w.update { p with activity := .program name (some input.text.length) }
      | .partly reply =>
        match reply.world.utter p reply.said with
        | (w, .done) =>
          (w.advance p 0 input.text.length).update { p with activity := .program name (some 0) }
        | (w, .refused) => w.finish p (.exited 1)
        | (w, .broken) => w.finish p (.signaled ⟨13⟩)
      | .done reply =>
        (reply.world.advance p 0 reply.taken).closeProgram p reply.said reply.code

/-- Whether a program that has seen so much has more to do now. -/
def isProgramReady (w : World) (p : Process) (name : String) (seen : Nat) : Bool :=
  if name = "yes" then
    match (w.fileOf? p 1).map OpenFile.channel with
    | some (.writer pipe) =>
      let length := ((w.pipes[pipe]?).getD []).length
      decide (length < pipeSize) || !w.hasReader pipe ||
        (w.isAwaited pipe && decide (length < 64 * pipeSize))
    | some (.file location) => (w.contentAt location).length < pipeSize
    | _ => false
  else
    match w.input? p 0 with
    | some input => input.isComplete || decide (seen < input.text.length)
    | none => true

/-- Sends a signal to what a program watches, and to the group that it leads; a process that is stopped
goes on to see it. -/
def sendWatched (w : World) (p : Process) (watch : Watch) (signal : Signal) : World :=
  let reach (w : World) (signal : Signal) : World :=
    let w := w.send watch.child signal
    if watch.inForeground then w
    else (w.members p.group).foldl (fun w q => if q.pid = p.pid then w else w.send q.pid signal) w
  let w := reach w signal
  if signal = .kill ∨ signal = .resume ∨ watch.inForeground then w else reach w .resume

/-- The moment at which a program that watches another one does something of its own accord. -/
def watchWake? (watch : Watch) : Option Instant :=
  match watch.deadline, watch.killAfter with
  | none, _ => none
  | some deadline, none => if watch.isLate then none else some deadline
  | some deadline, some _ => some deadline

/-- A step of a program that watches another one. -/
def stepWatching (w : World) (p : Process) (watch : Watch) : World :=
  match watch.received with
  | signal :: received =>
    let watch := { watch with received }
    (w.update { p with activity := .watching watch }).sendWatched p watch signal
  | [] =>
    if w.isOver watch.child then
      match w.reap watch.child, watch.deadline with
      | (status, w), none =>
        match status, watch.next with
        | some (.signaled signal), _ =>
          w.failProgram p "xargs" 125 (ascii ("child terminated by signal " ++ toString signal.number))
        | some (.exited code), next =>
          if code = 255 then w.failProgram p "xargs" 124 (ascii "exited with status 255; aborting")
          else w.runNext p (if code = 0 then watch.code else 123) next
        | none, next => w.runNext p watch.code next
      | (status, w), some _ =>
        match status with
        | some (.exited code) => w.finish p (.exited (if watch.isLate ∧ !watch.passesOn then 124 else code))
        | some (.signaled signal) =>
          if !watch.isLate then w.finish p (.signaled signal)
          else if signal = .kill ∨ watch.passesOn then
            w.finish p (.exited (UInt8.ofNat (128 + signal.number)))
          else w.finish p (.exited 124)
        | none => w.finish p (.exited 125)
    else
      match watch.killAfter, watch.isLate with
      | some n, false =>
        let watch' := { watch with isLate := true, deadline := some ⟨w.now.nanos + n⟩ }
        (w.update { p with activity := .watching watch' }).sendWatched p watch' watch.signal
      | some _, true =>
        let watch' := { watch with killAfter := none }
        (w.update { p with activity := .watching watch' }).sendWatched p watch' .kill
      | none, _ =>
        let watch' := { watch with isLate := true }
        (w.update { p with activity := .watching watch' }).sendWatched p watch' watch.signal

/-- Whether a program that watches another one has something to do now. -/
def isWatchReady (w : World) (watch : Watch) : Bool :=
  !watch.received.isEmpty || w.isOver watch.child ||
    match watchWake? watch with
    | some wake => decide (wake ≤ w.now)
    | none => false

end World

end ClockWarden.Rehearsal
