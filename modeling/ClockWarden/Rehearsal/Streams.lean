import ClockWarden.Rehearsal.World

/-! What processes read and write. A descriptor leads to an open file; those that lead to the same one
share the place that has been reached in it. A pipe ends for its readers when nobody can write to it. -/

namespace ClockWarden.Rehearsal

open Host Shell

/-- How a file is opened. -/
structure Access where
  reads : Bool := false
  writes : Bool := false
  appends : Bool := false
  /-- Whether what the file holds is dropped. -/
  empties : Bool := false
  /-- Whether a file that is there already is an error. -/
  spares : Bool := false

/-- What may be read at a place, and whether anything may follow. -/
structure Input where
  text : Bytes
  isComplete : Bool

/-- What came of writing. -/
inductive Emission where
  | done
  | refused
  /-- Nobody can read what is written. -/
  | broken
deriving DecidableEq

/-- The parts of a text between separators. -/
def partsAt (isSeparator : UInt8 → Bool) (text : Bytes) : List Bytes :=
  text.foldr (fun b parts => if isSeparator b then [] :: parts else
    match parts with
    | first :: others => (b :: first) :: others
    | [] => [[b]]) [[]]

namespace World

/-- Whether a process is waiting for what comes out of a pipe. -/
def awaitsPipe (p : Process) (pipe : Nat) : Bool :=
  match p.activity with
  | .shell s =>
    match s.waiting with
    | .output _ n => n = pipe
    | _ => false
  | _ => false

/-- Whether an open file of a process is of a kind. -/
def keeps (w : World) (p : Process) (isMeant : Channel → Bool) : Bool :=
  p.handles.any fun handle =>
    match w.opened[handle]? with
    | some file => isMeant file.channel
    | none => false

/-- Whether somebody can still write to a pipe. -/
def hasWriter (w : World) (pipe : Nat) : Bool :=
  w.processes.any fun p => w.keeps p (· = .writer pipe)

/-- Whether somebody can still read from a pipe. -/
def hasReader (w : World) (pipe : Nat) : Bool :=
  w.processes.any fun p => awaitsPipe p pipe || w.keeps p (· = .reader pipe)

/-- Adds an open file. -/
def addFile (w : World) (file : OpenFile) : Nat × World :=
  (w.opened.size, { w with opened := w.opened.push file })

/-- Makes a pipe, and the open files at its ends. -/
def addPipe (w : World) : Nat × Nat × Nat × World :=
  let pipe := w.pipes.size
  let (reader, w) := w.addFile ⟨.reader pipe, 0, false, true, false⟩
  let (writer, w) := w.addFile ⟨.writer pipe, 0, false, false, true⟩
  (pipe, reader, writer, { w with pipes := w.pipes.push [] })

/-- The open file behind a descriptor. -/
def fileOf? (w : World) (p : Process) (descriptor : Nat) : Option OpenFile := do
  w.opened[← p.handle? descriptor]?

/-- The content of the file at a location. -/
def contentAt (w : World) (location : Location) : Bytes :=
  match w.files.find? location with
  | some (.file content _) => content
  | _ => []

/-- What may be read behind a descriptor; none where nothing may be read. -/
def input? (w : World) (p : Process) (descriptor : Nat) : Option Input := do
  let file ← w.fileOf? p descriptor
  if !file.isReadable then none
  else
    match file.channel with
    | .nowhere | .console | .writer _ => some ⟨[], true⟩
    | .file location => some ⟨(w.contentAt location).drop file.offset, true⟩
    | .text content => some ⟨content.drop file.offset, true⟩
    | .reader pipe => some ⟨(w.pipes[pipe]?).getD [], !w.hasWriter pipe⟩

/-- Moves behind what has been read. -/
def advance (w : World) (p : Process) (descriptor length : Nat) : World :=
  match p.handle? descriptor with
  | none => w
  | some handle =>
    match w.opened[handle]? with
    | none => w
    | some file =>
      match file.channel with
      | .reader pipe => { w with pipes := w.pipes.modify pipe (·.drop length) }
      | _ => { w with opened := w.opened.set! handle { file with offset := file.offset + length } }

/-- Writes a text over another one, from a place on. -/
def overwritten (content : Bytes) (offset : Nat) (text : Bytes) : Bytes :=
  content.take offset ++ List.replicate (offset - content.length) 0 ++ text ++
    content.drop (offset + text.length)

/-- Writes to a descriptor. -/
def emit (w : World) (p : Process) (descriptor : Nat) (text : Bytes) : World × Emission :=
  if text = [] then (w, .done)
  else
    match p.handle? descriptor with
    | none => (w, .refused)
    | some handle =>
      match w.opened[handle]? with
      | none => (w, .refused)
      | some file =>
        if !file.isWritable then (w, .refused)
        else
          match file.channel with
          | .nowhere | .console | .text _ => (w, .done)
          | .reader _ => (w, .refused)
          | .writer pipe =>
            if w.hasReader pipe then ({ w with pipes := w.pipes.modify pipe (· ++ text) }, .done)
            else (w, .broken)
          | .file location =>
            match w.files.find? location with
            | some (.file content mode) =>
              let offset := if file.appends then content.length else file.offset
              ({ w with
                files := w.files.put location (.file (overwritten content offset text) mode),
                opened := w.opened.set! handle { file with offset := offset + text.length } }, .done)
            | _ => (w, .done)

/-- The name that an open file is shown under. -/
def shownName (w : World) (handle : Nat) : Path :=
  match w.opened[handle]? with
  | none => []
  | some file =>
    match file.channel with
    | .nowhere => Utf8.encode "/dev/null"
    | .console => Utf8.encode "/dev/console"
    | .file location => Files.pathOf location
    | .text _ => Utf8.encode ("pipe:[" ++ toString (200000 + handle) ++ "]")
    | .reader pipe | .writer pipe => Utf8.encode ("pipe:[" ++ toString (100000 + pipe) ++ "]")

/-- What processes show of a process: its files under its number. -/
def processNodes (w : World) (p : Process) : List (Location × Node) :=
  let here : Location := Files.location ["proc", toString p.pid]
  let under (name : String) : Location := here ++ [Utf8.encode name]
  let strings (l : List Bytes) : Bytes := l.flatMap (· ++ [0])
  let file (content : Bytes) : Node := .file content 0o444
  let letter : String := if !p.isAlive then "Z" else if p.isStopped then "T" else
    match p.activity with
    | .shell s => match s.waiting with
      | .nothing => "R"
      | _ => "S"
    | .program _ none => "R"
    | _ => "S"
  let parent : Nat := match p.parent with
    | .process pid => pid.toNat
    | .supervisor => 100000
    | .host => 1
  let number (pid : Pid) : String := toString pid.toNat
  let status := Utf8.encode ("Name:\t" ++ Utf8.decodeLossy p.name ++ "\nState:\t" ++ letter ++
    (match letter with
      | "R" => " (running)"
      | "S" => " (sleeping)"
      | "T" => " (stopped)"
      | _ => " (zombie)") ++ "\nTgid:\t" ++ number p.pid ++ "\nPid:\t" ++ number p.pid ++
    "\nPPid:\t" ++ toString parent ++ "\n")
  let stat := Utf8.encode (number p.pid ++ " (" ++ Utf8.decodeLossy p.name ++ ") " ++ letter ++ " " ++
    toString parent ++ " " ++ number p.group ++ " " ++ number p.session ++ " 0 -1\n")
  [(here, .directory), (under "fd", .directory),
    (under "cmdline", file (if p.isAlive then strings p.arguments else [])),
    (under "environ", file (if p.isAlive then strings p.environment else [])),
    (under "comm", file (p.name ++ [0x0A])), (under "status", file status), (under "stat", file stat),
    (under "cwd", .link (Files.pathOf p.directory)), (under "exe", .link p.program)] ++
  p.descriptors.map fun (descriptor, handle) =>
    (under "fd" ++ [Session.decimal descriptor], .stream handle (w.shownName handle))

/-- Whether a text stands within another one. -/
def holds (part : Bytes) : Bytes → Bool
  | [] => part.isEmpty
  | b :: rest => part.isPrefixOf (b :: rest) || holds part rest

/-- The files that a process sees; the processes themselves are shown among them. -/
def filesFor (w : World) (p : Process) (path : Path) : Files :=
  if holds (Utf8.encode "proc") path || holds (Utf8.encode "/dev/") path ||
      (p.directory.head? = some (Utf8.encode "proc")) then
    let own : Location × Node :=
      (Files.location ["proc", "self"], .link (Utf8.encode ("/proc/" ++ toString p.pid)))
    let shown := if w.processes.any (·.pid = p.pid) then w.processes else p :: w.processes
    let shown := shown.map fun q => if q.pid = p.pid then p else q
    ⟨own :: shown.flatMap w.processNodes ++ w.files.nodes⟩
  else w.files

/-- What a path names for a process. -/
def lookFor (w : World) (p : Process) (path : Path) : Except Error (Location × Node) :=
  (w.filesFor p path).look p.directory path

/-- Opens the file at a path. A new file is made without the rights that the process does not give. -/
def openPath (w : World) (p : Process) (path : Path) (access : Access) : Except Error (Nat × World) := do
  let file (channel : Channel) : OpenFile :=
    ⟨channel, 0, access.appends, access.reads, access.writes⟩
  match ← (w.filesFor p path).walk p.directory path with
  | (location, none) =>
    if !access.writes then .error .notFound
    else if path.getLast? = some Path.slash then .error .isDirectory
    else if !Files.isOpen location then .error .accessDenied
    else
      let w := { w with files := w.files.put location (.file [] (p.withMask 0o666)) }
      .ok (w.addFile (file (.file location)))
  | (location, some node) =>
    match node with
    | .directory =>
      if access.writes then .error .isDirectory else .ok (w.addFile (file (.text [])))
    | .device => .ok (w.addFile (file .nowhere))
    | .stream handle _ => .ok (handle, w)
    | .program _ => if access.writes then .error .accessDenied else .ok (w.addFile (file (.text [])))
    | .link _ => .error .linkLoop
    | .file content mode =>
      if access.spares then .error .alreadyThere
      else if (access.reads && !Node.isReadable mode) || (access.writes && !Node.isWritable mode) then
        .error .accessDenied
      else if location.head? = some (Utf8.encode "proc") then .ok (w.addFile (file (.text content)))
      else
        let w := if access.empties then { w with files := w.files.put location (.file [] mode) } else w
        .ok (w.addFile (file (.file location)))

/-- The content of the file at a path. -/
def contentFor (w : World) (p : Process) (path : Path) : Except Error Bytes := do
  match ← w.lookFor p path with
  | (_, .file content mode) => if Node.isReadable mode then .ok content else .error .accessDenied
  | (_, .directory) => .error .isDirectory
  | (_, .stream handle _) =>
    match (w.input? (p.lead 0 (some handle)) 0) with
    | some input => .ok input.text
    | none => .error .badDescriptor
  | _ => .ok []

end World

end ClockWarden.Rehearsal
