import ClockWarden.Rehearsal.Streams

/-! How a process comes to run a program: the file is found, by its path or along the search path, and
what it holds says what is run. A script names the program that reads it. -/

namespace ClockWarden.Rehearsal

open Host Shell

/-- What a program makes of a process. -/
structure Image where
  program : Path
  name : Bytes
  arguments : List Bytes
  activity : Activity

/-- The longest string that a program is handed, and the room for all of them. -/
def stringLimit : Nat := 131071
def blockLimit : Nat := 2097152

/-- Whether the strings for a program are too long. -/
def areTooLong (strings : List Bytes) : Bool :=
  strings.any (fun s => stringLimit < s.length) ||
    blockLimit < strings.foldl (fun total s => total + s.length + 9) 0

/-- The program that reads a script, and its argument if there is one, as the first line says. -/
def interpreter? (content : Bytes) : Option (Bytes × List Bytes) :=
  match content with
  | 0x23 :: 0x21 :: rest =>
    let isGap (b : UInt8) : Bool := b == 0x20 || b == 0x09
    let line := ((rest.take 254).takeWhile (· ≠ 0x0A)).dropWhile isGap
    let line := (line.reverse.dropWhile isGap).reverse
    let path := line.takeWhile (!isGap ·)
    let argument := (line.dropWhile (!isGap ·)).dropWhile isGap
    if path = [] then none else some (path, if argument = [] then [] else [argument])
  | _ => none

/-- The last name of a path. -/
def lastName (path : Path) : Bytes := (path.segments.getLast?).getD []

/-- What comes of running the file at a path in a process; scripts may be read by scripts, to a
depth. -/
def World.load (w : World) (p : Process) : Nat → Path → List Bytes → Except Error Image
  | 0, _, _ => .error .linkLoop
  | depth + 1, path, arguments => do
    match ← w.lookFor p path with
    | (location, .program program) =>
      if areTooLong (arguments ++ p.environment) then .error .argumentsTooLong
      else .ok ⟨Files.pathOf location, lastName path, arguments, .program program.name none⟩
    | (_, .file content mode) =>
      if !Node.isExecutable mode then .error .accessDenied
      else if areTooLong (arguments ++ p.environment) then .error .argumentsTooLong
      else
        match interpreter? content with
        | none => .error .badFormat
        | some (reader, argument) =>
          let image ← w.load p depth reader (reader :: argument ++ path :: arguments.drop 1)
          .ok { image with name := lastName path }
    | _ => .error .accessDenied

/-- A path with a slash says where the program is. -/
def hasSlash (program : Path) : Bool := program.contains Path.slash

/-- The parts of a text between colons. -/
def betweenColons (text : Bytes) : List Bytes := partsAt (· = 0x3A) text

/-- The directories of the search path of a process. -/
def searchPath (p : Process) : List Path :=
  betweenColons ((p.valueOf? "PATH").getD (Utf8.encode "/bin:/usr/bin"))

/-- The path of a name in a directory of the search path. -/
def within (directory : Path) (name : Bytes) : Path :=
  if directory = [] then name else directory ++ Path.slash :: name

def shellPath : Path := Utf8.encode "/bin/sh"

/-- How deep scripts may be read by scripts. -/
def scriptDepth : Nat := 6

/-- Tries the directories of a search path in turn. Where a file is no program, a shell reads it. -/
def World.search (w : World) (p : Process) (program : Path) (arguments : List Bytes) (wasDenied : Bool)
    (last : Error) : List Path → Except Error Image
  | [] => .error (if wasDenied then .accessDenied else last)
  | directory :: others =>
    let path := within directory program
    match w.load p scriptDepth path arguments with
    | .ok image => .ok image
    | .error cause =>
      if cause = .badFormat then
        w.load p scriptDepth shellPath (shellPath :: path :: arguments.drop 1)
      else if cause = .accessDenied then w.search p program arguments true cause others
      else if cause = .notFound ∨ cause = .notDirectory then
        w.search p program arguments wasDenied cause others
      else .error cause

/-- What comes of running a program in a process, by its path or along a search path. -/
def World.executeAlong (w : World) (p : Process) (path : List Path) (program : Path)
    (arguments : List Bytes) : Except Error Image :=
  if hasSlash program then w.load p scriptDepth program arguments
  else if program = [] then .error .notFound
  else w.search p program arguments false .notFound path

/-- What comes of running a program in a process. A file that is no program is an error here where its
path is named. -/
def World.execute (w : World) (p : Process) (program : Path) (arguments : List Bytes) :
    Except Error Image :=
  w.executeAlong p (searchPath p) program arguments

/-- What comes of running a command in a process; where its file is no program, a shell reads it. -/
def World.perform (w : World) (p : Process) (path : List Path) (command : List Bytes) :
    Except Error Image :=
  let program := (command.head?).getD []
  match w.executeAlong p path program command with
  | .error .badFormat => w.load p scriptDepth shellPath (shellPath :: program :: command.drop 1)
  | other => other

/-- A process that goes on with another program. -/
def Process.running (p : Process) (image : Image) : Process :=
  { p with program := image.program, name := image.name, arguments := image.arguments,
           activity := image.activity }

end ClockWarden.Rehearsal
