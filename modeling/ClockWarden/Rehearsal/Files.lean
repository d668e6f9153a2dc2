import ClockWarden.Host.Environment
import ClockWarden.Host.Error
import ClockWarden.Host.Path

/-! The files of a rehearsed host. Each stands under the names that lead to it from the root. -/

namespace ClockWarden.Rehearsal

open Host

/-- A program that a host comes with, by its name. -/
structure Program where
  name : String
deriving DecidableEq, Repr

/-- The names from the root to a file. -/
abbrev Location := List Bytes

/-- What stands at a location. -/
inductive Node where
  | directory
  /-- A file; its mode says who may read, write and execute it. -/
  | file (content : Bytes) (mode : Nat)
  | program (program : Program)
  /-- A device that swallows what is written to it and gives nothing. -/
  | device
  | link (target : Path)
  /-- An open file of a process, and the name that it is shown under. -/
  | stream (handle : Nat) (shown : Path)
deriving DecidableEq, Repr

namespace Node

/-- A file that everybody may read and its owner may write. -/
def plainMode : Nat := 0o644

/-- Whether the owner of a file with some mode may read, write or execute it. -/
def isReadable (mode : Nat) : Bool := mode / 256 % 2 = 1
def isWritable (mode : Nat) : Bool := mode / 128 % 2 = 1
def isExecutable (mode : Nat) : Bool := mode / 64 % 2 = 1

end Node

/-- The files of a host. -/
structure Files where
  nodes : List (Location × Node)

namespace Files

/-- What stands at a location. -/
def find? (files : Files) : Location → Option Node
  | [] => some .directory
  | location => files.nodes.lookup location

/-- Takes away what stands at a location. -/
def erase (files : Files) (location : Location) : Files :=
  ⟨files.nodes.filter (·.1 ≠ location)⟩

/-- Puts something at a location. -/
def put (files : Files) (location : Location) (node : Node) : Files :=
  ⟨(location, node) :: (files.erase location).nodes⟩

/-- What is behind a location that begins with another one. -/
def behind? (location here : Location) : Option Location :=
  if here.isPrefixOf location then some (location.drop here.length) else none

/-- Puts what stands at a location, and below it, somewhere else. -/
def move (files : Files) (source target : Location) : Files :=
  let kept := files.nodes.filter fun entry => (behind? entry.1 target).isNone
  ⟨kept.map fun (location, node) =>
    match behind? location source with
    | some names => (target ++ names, node)
    | none => (location, node)⟩

/-- Takes away what stands at a location, and below it. -/
def eraseAll (files : Files) (location : Location) : Files :=
  ⟨files.nodes.filter fun entry => (behind? entry.1 location).isNone⟩

/-- The names in a directory, in their order. -/
def names (files : Files) (here : Location) : List Bytes :=
  let found := files.nodes.filterMap fun entry =>
    match behind? entry.1 here with
    | some [name] => some name
    | _ => none
  found.mergeSort fun a b => !bytesBefore b a

/-- The longest name, and the longest path. -/
def nameLimit : Nat := 255
def pathLimit : Nat := 4095

/-- So many links may stand in the way of a path. -/
def linkLimit : Nat := 40

/-- Where the segments of a path lead, up to the first link. -/
inductive Reach where
  | arrived (location : Location) (node : Option Node)
  /-- A link in a directory, and what comes behind it. -/
  | link (here : Location) (target : Path) (rest : List Bytes)

/-- Follows the segments of a path up to a link. The last one may name nothing yet; if it names a link,
that is followed only if `followsLast`. -/
def reach (files : Files) (followsLast : Bool) (here : Location) : List Bytes → Except Error Reach
  | [] => .ok (.arrived here (files.find? here))
  | segment :: rest =>
    if files.find? here = none then .error .notFound
    else if segment = [] ∨ segment = [Path.dot] then files.reach followsLast here rest
    else if segment = [Path.dot, Path.dot] then files.reach followsLast here.dropLast rest
    else if nameLimit < segment.length then .error .nameTooLong
    else
      let next := here ++ [segment]
      match files.find? next with
      | none => if rest = [] then .ok (.arrived next none) else .error .notFound
      | some .directory => files.reach followsLast next rest
      | some (.link target) =>
        if rest = [] ∧ !followsLast then .ok (.arrived next (some (.link target)))
        else .ok (.link here target rest)
      | some node => if rest = [] then .ok (.arrived next (some node)) else .error .notDirectory

/-- Follows the segments of a path, through so many links. -/
def follow (files : Files) (followsLast : Bool) : Nat → Location → List Bytes →
    Except Error (Location × Option Node)
  | 0, _, _ => .error .linkLoop
  | links + 1, here, segments => do
    match ← files.reach followsLast here segments with
    | .arrived location node => .ok (location, node)
    | .link here target rest =>
      if target = [] then .error .notFound
      else
        files.follow followsLast links (if target.isAbsolute then [] else here)
          (target.segments ++ rest)

/-- Looks up a path, seen from a directory. -/
def walkWith (files : Files) (followsLast : Bool) (here : Location) (path : Path) :
    Except Error (Location × Option Node) :=
  if path = [] then .error .notFound
  else if pathLimit < path.length then .error .nameTooLong
  else
    files.follow followsLast (linkLimit + 1) (if path.isAbsolute then [] else here) path.segments

def walk (files : Files) : Location → Path → Except Error (Location × Option Node) :=
  files.walkWith true

/-- What a path names, seen from a directory. -/
def lookWith (files : Files) (followsLast : Bool) (here : Location) (path : Path) :
    Except Error (Location × Node) := do
  match ← files.walkWith followsLast here path with
  | (location, some node) => .ok (location, node)
  | (_, none) => .error .notFound

def look (files : Files) : Location → Path → Except Error (Location × Node) := files.lookWith true

/-- The directory that a path names. -/
def directory (files : Files) (here : Location) (path : Path) : Except Error Location := do
  match ← files.look here path with
  | (location, .directory) => .ok location
  | _ => .error .notDirectory

/-- The path of a location. -/
def pathOf (location : Location) : Path :=
  if location = [] then [Path.slash] else location.flatMap fun name => Path.slash :: name

/-- The location of names. -/
def location (names : List String) : Location := names.map Utf8.encode

/-- The directories in which everybody may make files. -/
def openDirectories : List Location := [location ["tmp"], location ["var", "tmp"], location ["dev", "shm"]]

/-- Whether files may be made, moved and taken away at a location. -/
def isOpen (here : Location) : Bool :=
  openDirectories.any fun directory => directory.isPrefixOf here && directory.length < here.length

/-- The programs that every host has. -/
def programs : List String :=
  ["[", "basename", "cat", "chmod", "cp", "cut", "dash", "date", "dirname", "echo", "env", "expr",
    "false", "find", "grep", "egrep", "fgrep", "head", "hostname", "id", "kill", "ln", "ls", "mkdir",
    "mktemp", "mv", "nice", "nl", "nohup", "nproc", "printenv", "printf", "pwd", "readlink", "realpath",
    "rev", "rm", "rmdir", "sed", "seq", "setsid", "sleep", "sort", "stat", "sync", "tac", "tail", "tee",
    "test", "timeout", "touch", "tr", "true", "tty", "uname", "uniq", "wc", "which", "whoami", "xargs",
    "yes"]

/-- The files that every host has. -/
def standard : Files :=
  let directories := [["bin"], ["dev"], ["etc"], ["home"], ["lib"], ["opt"], ["proc"], ["root"], ["run"],
    ["sbin"], ["tmp"], ["usr"], ["var"], ["dev", "shm"], ["usr", "bin"], ["usr", "lib"], ["usr", "local"],
    ["usr", "local", "bin"], ["usr", "sbin"], ["usr", "share"], ["var", "tmp"]]
  let linked := ["bin", "lib", "sbin"]
  ⟨(directories.map fun names =>
      match names with
      | [name] =>
        (location [name], if linked.contains name then .link (Utf8.encode ("usr/" ++ name))
          else .directory)
      | _ => (location names, .directory)) ++
    (programs.map fun name => (location ["usr", "bin", name], .program ⟨name⟩)) ++
    [(location ["usr", "bin", "sh"], .link (Utf8.encode "dash")),
      (location ["dev", "null"], .device)] ++
    ((["stdin", "stdout", "stderr"].mapIdx fun i name =>
      (location ["dev", name], .link (Utf8.encode ("/proc/self/fd/" ++ toString i))))) ++
    [(location ["dev", "fd"], .link (Utf8.encode "/proc/self/fd"))]⟩

end Files

end ClockWarden.Rehearsal
