import ClockWarden.Rehearsal.Execution
import ClockWarden.Rehearsal.Tool.Condition
import ClockWarden.Rehearsal.Tool.Rights
import ClockWarden.Shell.Expansion

/-! The commands that a shell carries out by itself. -/

namespace ClockWarden.Rehearsal

open Host Shell

/-- What came of a command that a shell carried out by itself. -/
structure Act where
  world : World
  process : Process
  session : Session
  output : Bytes := []
  complaint : Bytes := []
  code : UInt8 := 0
  /-- Whether the shell ends if it may not be spared. -/
  isFatal : Bool := false

namespace Act

/-- Complains in the name of the shell. -/
def complain (a : Act) (code : UInt8) (text : Bytes) : Act :=
  { a with code, complaint := a.complaint ++ a.session.commandComplaint text }

/-- Complains in the name of nobody. -/
def mutter (a : Act) (code : UInt8) (text : Bytes) : Act :=
  { a with code, complaint := a.complaint ++ text ++ [lineBreak] }

/-- A mistake that ends a shell, unless the command is an ordinary one. -/
def abort (a : Act) (text : Bytes) : Act := { a.complain 2 text with isFatal := true }

def say (a : Act) (output : Bytes) : Act := { a with output := a.output ++ output }

end Act

/-- The signal that a word of a script means; zero stands for the end of the shell. -/
def signalOf? (word : Bytes) : Option Signal :=
  let text := (wordText word).toUpper
  if text = "EXIT" then some ⟨0⟩
  else
    match numeral? word with
    | some n => if n < 65 then some ⟨n⟩ else none
    | none => (Signal.names.findIdx? (· == text)).map fun i => ⟨i + 1⟩

/-- The name of a signal in a script. -/
def signalWord (signal : Signal) : Bytes :=
  ascii (if signal.number = 0 then "EXIT" else signal.shortName?.getD (toString signal.number))

/-- A text between quotes, so that a script may hold it. -/
def scriptQuoted (text : Bytes) : Bytes :=
  0x27 :: text.flatMap (fun b => if b = 0x27 then ascii "'\"'\"'" else [b]) ++ [0x27]

/-- Sets what happens at signals: nothing, what happens by default, or a command. What was ignored from
the start stays so. -/
def setTraps (p : Process) (s : Session) (action : Option Bytes) (signals : List Signal) :
    Process × Session :=
  signals.foldl (fun (p, s) signal =>
    let others := s.traps.filter (·.1 ≠ signal)
    if s.hardened.contains signal then (p, s)
    else
      let ignored := p.ignored.filter (· ≠ signal)
      match action with
      | none => ({ p with ignored }, { s with traps := others })
      | some [] => ({ p with ignored := signal :: ignored }, { s with traps := others })
      | some command => ({ p with ignored }, { s with traps := (signal, command) :: others })) (p, s)

/-- The command for signals. -/
def trapAct (a : Act) (arguments : List Bytes) : Act :=
  let line (action : Bytes) (signal : Signal) : Bytes :=
    ascii "trap -- " ++ scriptQuoted action ++ 0x20 :: signalWord signal ++ [lineBreak]
  match arguments with
  | [] =>
    let shown := (List.range 65).flatMap fun n =>
      match a.session.traps.find? (·.1 = ⟨n⟩) with
      | some (signal, action) => line action signal
      | none =>
        if a.process.ignored.contains ⟨n⟩ && !a.session.hardened.contains ⟨n⟩ then line [] ⟨n⟩ else []
    a.say shown
  | first :: rest =>
    let arguments := if first = ascii "--" then rest else arguments
    match arguments with
    | [] => a
    | first :: rest =>
      let (action, names) : Option Bytes × List Bytes :=
        if rest = [] ∨ (numeral? first).isSome then (none, arguments)
        else (if first = [0x2D] then none else some first, rest)
      let known := names.takeWhile fun name => (signalOf? name).isSome
      let (process, session) := setTraps a.process a.session action (known.filterMap signalOf?)
      let a := { a with process, session }
      match names.drop known.length with
      | bad :: _ => a.mutter 1 (ascii "trap: " ++ bad ++ ascii ": bad trap")
      | [] => a

/-- The name and the value of an argument that sets a variable. -/
def setting (argument : Bytes) : Bytes × Option Bytes :=
  let name := argument.takeWhile (· ≠ 0x3D)
  (name, ((argument.dropWhile (· ≠ 0x3D)).head?).map fun _ => argument.drop (name.length + 1))

/-- Marks variables, some of which get new values. -/
def markAct (command : String) (mark : Session → Bytes → Session) : Act → List Bytes → Act
  | a, [] => a
  | a, argument :: rest =>
    let (name, value) := setting argument
    if !isName name then a.abort (ascii (command ++ ": ") ++ name ++ ascii ": bad variable name")
    else
      match value with
      | none => markAct command mark { a with session := mark a.session name } rest
      | some value =>
        if a.session.isReadonly name then
          a.abort (ascii (command ++ ": ") ++ name ++ ascii ": is read only")
        else
          markAct command mark { a with session := mark (a.session.assign name value) name } rest

/-- Lists the variables that are marked. -/
def listMarked (a : Act) (command : String) (isMarked : Variable → Bool) : Act :=
  let marked := (a.session.values.filter fun entry => isMarked entry.2).mergeSort
    fun x y => !bytesBefore y.1 x.1
  a.say (marked.flatMap fun (name, v) =>
    (if command = "" then [] else ascii (command ++ " ")) ++ name ++ (match v.value with
      | some value => 0x3D :: scriptQuoted value
      | none => []) ++ [lineBreak])

/-- Takes variables or functions away. -/
def unsetAct (isFunction : Bool) : Act → List Bytes → Act
  | a, [] => a
  | a, name :: rest =>
    if isFunction then
      let functions := a.session.functions.filter (·.1 ≠ name)
      unsetAct isFunction { a with session := { a.session with functions } } rest
    else if !isName name then a.abort (ascii "unset: " ++ name ++ ascii ": bad variable name")
    else if a.session.isReadonly name then a.abort (ascii "unset: " ++ name ++ ascii ": is read only")
    else unsetAct isFunction { a with session := a.session.remove name } rest

/-- The path that one leads to from a directory, by their texts alone. -/
def textualPath (base path : Path) : Path :=
  let names := (if path.isAbsolute then path else base ++ Path.slash :: path).segments
  let kept := names.foldl (fun kept name =>
    if name = [] ∨ name = [Path.dot] then kept
    else if name = [Path.dot, Path.dot] then kept.dropLast
    else kept ++ [name]) ([] : List Bytes)
  Files.pathOf kept

/-- Goes to another directory. -/
def cdAct (a : Act) (arguments : List Bytes) : Act :=
  let isPhysical : Bool := arguments.head? = some (ascii "-P")
  let arguments := arguments.dropWhile fun text => [ascii "-P", ascii "-L", ascii "--"].contains text
  let s := a.session
  let isBack : Bool := arguments.head? = some [0x2D]
  let target := match arguments with
    | [] => s.getText "HOME"
    | first :: _ => if isBack then s.getText "OLDPWD" else first
  let target : Path := if target = [] then [Path.dot] else target
  let here := s.getText "PWD"
  let isPlain : Bool := target.isAbsolute || target.head? = some Path.dot
  let others := if isPlain then [] else
    (betweenColons (s.getText "CDPATH")).filter (· ≠ [])
  let paths := others.map (within · target) ++ [target]
  let go (path : Path) : Option (Location × Path) :=
    match (a.world.filesFor a.process path).directory a.process.directory path with
    | .ok location =>
      some (location, if isPhysical then Files.pathOf location else textualPath here path)
    | .error _ => none
  match paths.findSome? fun path => (go path).map fun found => (path, found) with
  | none => a.complain 2 (ascii "cd: can't cd to " ++ target)
  | some (path, location, shown) =>
    let s := ((s.assign (ascii "OLDPWD") here).exported (ascii "OLDPWD"))
    let s := (s.assign (ascii "PWD") shown).exported (ascii "PWD")
    let a := { a with session := s, process := { a.process with directory := location } }
    if isBack ∨ path ≠ target then a.say (shown ++ [lineBreak]) else a

/-- The options that a shell may be told to set, by letter and by name. -/
def optionNames : List (UInt8 × String) :=
  [(0x65, "errexit"), (0x66, "noglob"), (0x49, "ignoreeof"), (0x69, "interactive"), (0x6D, "monitor"),
    (0x6E, "noexec"), (0x73, "stdin"), (0x78, "xtrace"), (0x76, "verbose"), (0x56, "vi"), (0x45, "emacs"),
    (0x43, "noclobber"), (0x61, "allexport"), (0x62, "notify"), (0x75, "nounset"),
    (0x70, "privileged")]

/-- Sets or clears an option. -/
def withOption (s : Session) (letter : UInt8) (isOn : Bool) : Session :=
  let wanted := fun l => if l = letter then isOn else s.options.contains l
  { s with options := (optionNames.map (·.1)).filter wanted }

/-- The options that have a name only; setting them changes nothing. -/
def silentOptions : List String := ["nolog", "debug"]

/-- Lists the options, for a reader or as commands that set them again. -/
def listOptions (s : Session) (forReader : Bool) : Bytes :=
  let known := optionNames.map fun (letter, name) => (name, s.hasOption letter)
  let line (name : String) (isOn : Bool) : Bytes :=
    if forReader then (ascii name).rightpad 16 Session.space ++ ascii (if isOn then "on\n" else "off\n")
    else ascii ("set " ++ (if isOn then "-" else "+") ++ "o " ++ name ++ "\n")
  (if forReader then ascii "Current option settings\n" else []) ++
    (known ++ silentOptions.map fun name => (name, false)).flatMap fun (name, isOn) => line name isOn

/-- Sets options and parameters. -/
def setAct : Act → List Bytes → Act
  | a, [] => a
  | a, argument :: rest =>
    let parameters (a : Act) (given : List Bytes) : Act :=
      { a with session := { a.session with parameters := given, optionIndex := 1, optionOffset := 0 } }
    match argument with
    | 0x2D :: 0x2D :: [] => parameters a rest
    | [0x2D] =>
      let s := withOption (withOption a.session 0x78 false) 0x76 false
      let a := { a with session := s }
      if rest.isEmpty then a else parameters a rest
    | sign :: letters =>
      if (sign = 0x2D ∨ sign = 0x2B) ∧ letters ≠ [] then
        let isOn : Bool := sign = 0x2D
        if letters.contains 0x6F then
          match rest with
          | name :: rest =>
            match optionNames.find? fun entry => ascii entry.2 = name with
            | some (letter, _) => setAct { a with session := withOption a.session letter isOn } rest
            | none =>
              a.abort (ascii "set: Illegal option " ++ [sign] ++ ascii "o " ++ name)
          | [] => a.say (listOptions a.session isOn)
        else
          match letters.find? fun letter => !optionNames.any (·.1 = letter) with
          | some bad => a.abort (ascii "set: Illegal option -" ++ [bad])
          | none =>
            let s := letters.foldl (fun s letter => withOption s letter isOn) a.session
            setAct { a with session := s } rest
      else parameters a (argument :: rest)
    | [] => parameters a (argument :: rest)

/-- The commands that end a shell where they go wrong. -/
def specialNames : List String := [":", ".", "break", "continue", "eval", "exec", "exit", "export",
  "readonly", "return", "set", "shift", "times", "trap", "unset", "local"]

def isSpecial (name : String) : Bool := specialNames.contains name

/-- The other commands that a shell carries out by itself. -/
def ordinaryNames : List String := ["[", "alias", "bg", "cd", "chdir", "command", "echo", "false", "fg",
  "getopts", "hash", "jobs", "kill", "printf", "pwd", "read", "test", "true", "type", "ulimit", "umask",
  "unalias", "wait"]

def isBuiltin (name : String) : Bool := isSpecial name || ordinaryNames.contains name

/-- The search path of a shell. -/
def pathOf (s : Session) : List Path := betweenColons (s.getText "PATH")

/-- The path of the program that a name means. -/
def programPath? (w : World) (p : Process) (s : Session) (name : Bytes) : Option Path :=
  let isProgram (path : Path) : Bool :=
    match w.lookFor p path with
    | .ok (_, .program _) => true
    | .ok (_, .file _ mode) => Node.isExecutable mode
    | _ => false
  if hasSlash name then if isProgram name then some name else none
  else (pathOf s).findSome? fun directory =>
    let path := within directory name
    if isProgram path then some path else none

/-- Says what a name means, at length or in short. -/
def describe (a : Act) (isShort : Bool) (name : Bytes) : Act :=
  let text := wordText name
  let say (what : String) : Act :=
    a.say (if isShort then name ++ [lineBreak] else name ++ ascii (" is " ++ what ++ "\n"))
  if Reader.keywords.contains text then say "a shell keyword"
  else if let some value := a.session.aliases.lookup name then
    a.say (if isShort then ascii "alias " ++ name ++ 0x3D :: scriptQuoted value ++ [lineBreak]
      else name ++ ascii " is an alias for " ++ value ++ [lineBreak])
  else if isSpecial text then say "a special shell builtin"
  else if a.session.functions.any (·.1 = name) then say "a shell function"
  else if isBuiltin text then say "a shell builtin"
  else
    match programPath? a.world a.process a.session name with
    | some path =>
      let isKnown := a.session.tracked.contains name
      let s := if hasSlash name then a.session else a.session.track name
      { a with session := s }.say (if isShort then path ++ [lineBreak] else
        name ++ ascii (if isKnown then " is a tracked alias for " else " is ") ++ path ++ [lineBreak])
    | none =>
      let a := { a with code := 127 }
      if isShort then a else a.say (name ++ ascii ": not found\n")

/-- Finds programs ahead of their use, or lists those that have been found. -/
def hashAct (a : Act) (arguments : List Bytes) : Act :=
  match arguments with
  | [] =>
    a.say (unlines (a.session.trackedInOrder.filterMap
      (programPath? a.world a.process a.session)))
  | first :: _ =>
    if first = ascii "-r" then { a with session := { a.session with tracked := [] } }
    else
      arguments.foldl (fun a name =>
        if hasSlash name || isBuiltin (wordText name) || a.session.functions.any (·.1 = name) then a
        else if (programPath? a.world a.process a.session name).isSome then
          { a with session := a.session.track name }
        else a.complain 1 (ascii "hash: " ++ name ++ ascii ": not found")) a

/-- The next option of arguments. -/
def getoptsAct (a : Act) (arguments : List Bytes) : Act :=
  match arguments with
  | letters :: name :: given =>
    let s := a.session
    if !isName name then a.complain 2 (ascii "getopts: " ++ name ++ ascii ": bad variable name")
    else if s.isReadonly name then a.complain 2 (ascii "getopts: " ++ name ++ ascii ": is read only")
    else
    let given := if given = [] then s.parameters else given
    let index := s.optionIndex - 1
    let here := if s.optionOffset = 0 then 1 else s.optionOffset
    let isSilent : Bool := letters.head? = some 0x3A
    let valueName := ascii "OPTARG"
    let found (next offset : Nat) (option : UInt8) (value : Option Bytes) : Act :=
      let s := (s.assign (ascii "OPTIND") (Session.decimal (next + 1))).assign name [option]
      let s := match value with
        | some value => s.assign valueName value
        | none => s.remove valueName
      { a with session := { s with optionOffset := offset } }
    let ended (next : Nat) : Act := { found next 0 0x3F none with code := 1 }
    match given[index]? with
    | none => ended index
    | some [0x2D, 0x2D] => ended (index + 1)
    | some argument =>
      match argument.head?, argument[here]? with
      | some 0x2D, some letter =>
        let isLast : Bool := argument.length ≤ here + 1
        let (next, offset) := if isLast then (index + 1, 0) else (index, here + 1)
        match letters.dropWhile (· ≠ letter) with
        | _ :: 0x3A :: _ =>
          if !isLast then found (index + 1) 0 letter (some (argument.drop (here + 1)))
          else
            match given[index + 1]? with
            | some value => found (index + 2) 0 letter (some value)
            | none =>
              if isSilent then found (index + 1) 0 0x3A (some [letter])
              else (found (index + 1) 0 0x3F none).mutter 0
                (ascii "No arg for -" ++ [letter] ++ ascii " option")
        | _ :: _ => found next offset letter none
        | [] =>
          if isSilent then found next offset 0x3F (some [letter])
          else (found next offset 0x3F none).mutter 0 (ascii "Illegal option -" ++ [letter])
      | _, _ => ended index
  | _ => a.complain 2 (ascii "getopts: Usage: getopts optstring var [arg]")

/-- The status of a test. -/
def testAct (a : Act) (name : String) (arguments : List Bytes) : Act :=
  match Condition.outcome (a.world.testGround a.process) arguments with
  | .ok holds => { a with code := if holds then 0 else 1 }
  | .error fault => a.complain 2 (ascii (name ++ ": ") ++ fault.inShell)

/-- Keeps variables of a function apart from those around it: the frame that ends the function is
preceded by one that puts them back. -/
def localAct : Act → List Bytes → Act
  | a, [] => a
  | a, argument :: rest =>
    let (name, value) := setting argument
    let s := a.session
    let isEnd : Frame → Bool
      | .call _ => true
      | _ => false
    if !s.work.any isEnd then a.abort (ascii "local: not in a function")
    else if !isName name then a.abort (ascii "local: " ++ name ++ ascii ": bad variable name")
    else
      let inner := s.work.takeWhile fun frame => !isEnd frame
      let work := inner ++ .revert [(name, s.find? name)] :: s.work.drop inner.length
      let s := { s with work }
      let s := match value with
        | some value => s.assign name value
        | none => s
      localAct { a with session := s } rest

/-- Sets words that stand for texts where a command is expected, or shows them. -/
def aliasAct : Act → List Bytes → Act
  | a, [] =>
    a.say ((a.session.aliases.mergeSort fun x y => !bytesBefore y.1 x.1).flatMap fun (name, value) =>
      name ++ 0x3D :: scriptQuoted value ++ [lineBreak])
  | a, first :: others => (first :: others).foldl (fun a argument =>
      let (name, value) := setting argument
      match value with
      | some value =>
        let kept := a.session.aliases.filter (·.1 ≠ name)
        { a with session := { a.session with aliases := (name, value) :: kept } }
      | none =>
        match a.session.aliases.lookup name with
        | some value => a.say (name ++ 0x3D :: scriptQuoted value ++ [lineBreak])
        | none => a.mutter 1 (ascii "alias: " ++ name ++ ascii " not found")) a

/-- Takes such words away. -/
def unaliasAct (a : Act) (names : List Bytes) : Act :=
  if names.head? = some (ascii "-a") then { a with session := { a.session with aliases := [] } }
  else
    names.foldl (fun a name =>
      if a.session.aliases.any (·.1 = name) then
        { a with session := { a.session with aliases := a.session.aliases.filter (·.1 ≠ name) } }
      else a.mutter 1 (ascii "unalias: " ++ name ++ ascii " not found")) a

/-- Sets the rights that files are made without, or shows them. -/
def umaskAct (a : Act) (arguments : List Bytes) : Act :=
  let mask := a.process.mask
  match arguments with
  | [] =>
    let digits := digitsIn 8 false mask
    a.say (List.replicate (4 - digits.length) 0x30 ++ digits ++ [lineBreak])
  | word :: _ =>
    if word = ascii "-S" then
      let left := allRights - mask
      a.say (ascii "u=" ++ rightLetters left 6 ++ ascii ",g=" ++ rightLetters left 3 ++
        ascii ",o=" ++ rightLetters left 0 ++ [lineBreak])
    else if word.any isDigit then
      if word.all fun b => 0x30 ≤ b && b ≤ 0x37 then
        { a with process := { a.process with mask := octalValue word % (allRights + 1) } }
      else a.abort (ascii "umask: Illegal number: " ++ word)
    else
      match modeOf? 0 word (allRights - mask) with
      | some mode => { a with process := { a.process with mask := allRights - mode } }
      | none => a.abort (ascii "umask: Illegal mode: " ++ word)

/-- The signal and the targets of a command that sends one. -/
def killTargets (arguments : List Bytes) : Except Bytes (Signal × List Bytes) :=
  let signal (name : Bytes) (targets : List Bytes) : Except Bytes (Signal × List Bytes) :=
    match signalOf? name with
    | some signal =>
      .ok (signal, if targets.head? = some (ascii "--") then targets.drop 1 else targets)
    | none => .error (ascii "invalid signal number or name: " ++ name)
  match arguments with
  | (0x2D :: name) :: rest =>
    if name = [0x73] then
      match rest with
      | name :: targets => signal name targets
      | [] => .error (ascii "No arg for -s option")
    else if name = [0x2D] then .ok (.terminate, rest)
    else
      match signalOf? name with
      | some _ => signal name rest
      | none => .error (ascii "Illegal option -" ++ name.take 1)
  | _ => .ok (.terminate, arguments)

/-- The process that a word of a script means. -/
def pidOf? (word : Bytes) : Option Pid := (numeral? word).map UInt32.ofNat

/-- Sends a signal to a process, to a group after a minus sign, or to the group of the sender; tells
whether there is one. -/
def World.deliver (w : World) (p : Process) (signal : Signal) (target : Bytes) : Bool × World :=
  let toGroup (group : Pid) : Bool × World :=
    match w.sendGroup group signal with
    | (.ok (), w) => (true, w)
    | (.error _, w) => (false, w)
  match target with
  | 0x2D :: group => ((pidOf? group).map toGroup).getD (false, w)
  | _ =>
    match pidOf? target with
    | some 0 => toGroup p.group
    | some pid => ((w.find? pid).isSome, w.send pid signal)
    | none => (false, w)

/-- What a shell can do by itself, where nothing but itself, its process and the files is concerned. -/
def builtin? (a : Act) (name : String) (arguments : List Bytes) : Option Act :=
  match name with
  | "hash" => some (hashAct a arguments)
  | ":" | "true" | "ulimit" => some a
  | "alias" => some (aliasAct a arguments)
  | "unalias" => some (unaliasAct a arguments)
  | "false" => some { a with code := 1 }
  | "echo" => some (a.say (echoed arguments))
  | "printf" =>
    match if arguments.head? = some (ascii "--") then arguments.drop 1 else arguments with
    | [] => some (a.complain 2 (ascii "printf: usage: printf format [arg ...]"))
    | format :: rest =>
      let w := formatted true format rest
      some (w.faults.foldl (fun a (_, fault) => a.complain 1 (ascii "printf: " ++ fault.inShell))
        (a.say w.written))
  | "pwd" =>
    let path := if arguments.head? = some (ascii "-P") then Files.pathOf a.process.directory
      else a.session.getText "PWD"
    some (a.say ((if path = [] then Files.pathOf a.process.directory else path) ++ [lineBreak]))
  | "test" => some (testAct a name arguments)
  | "[" =>
    if arguments.getLast? = some [0x5D] then some (testAct a name arguments.dropLast)
    else some (a.complain 2 (ascii "[: missing ]"))
  | "trap" => some (trapAct a arguments)
  | "export" =>
    if arguments = [] ∨ arguments = [ascii "-p"] then some (listMarked a name (·.isExported))
    else some (markAct name Session.exported a arguments)
  | "readonly" =>
    if arguments = [] ∨ arguments = [ascii "-p"] then some (listMarked a name (·.isReadonly))
    else some (markAct name Session.sealed a arguments)
  | "local" => some (localAct a arguments)
  | "unset" =>
    let isFunction : Bool := arguments.head? = some (ascii "-f")
    let names := arguments.dropWhile fun text => [ascii "-f", ascii "-v", ascii "--"].contains text
    some (unsetAct isFunction a names)
  | "set" => if arguments.isEmpty then some (listMarked a "" (·.value.isSome)) else some (setAct a arguments)
  | "shift" =>
    let count := match arguments with
      | [] => some 1
      | first :: _ => numeral? first
    match count with
    | none => some (a.abort (ascii "shift: Illegal number: " ++ (arguments.head?).getD []))
    | some n =>
      if a.session.parameters.length < n then some (a.abort (ascii "shift: can't shift that many"))
      else
        some { a with session := { a.session with
          parameters := a.session.parameters.drop n, optionIndex := 1, optionOffset := 0 } }
  | "cd" | "chdir" => some (cdAct a arguments)
  | "umask" => some (umaskAct a arguments)
  | "times" => some (a.say (ascii "0m0.000000s 0m0.000000s\n0m0.000000s 0m0.000000s\n"))
  | "type" =>
    some (arguments.foldl (fun a name => describe a false name) a)
  | "getopts" => some (getoptsAct a arguments)
  | _ => none

end ClockWarden.Rehearsal
