import ClockWarden.Rehearsal.Streams

/-! The small programs of a rehearsed host: how they are called, and what they give back. -/

namespace ClockWarden.Rehearsal

open Host Shell

/-- The call of a small program. -/
structure ToolCall where
  world : World
  process : Process
  name : String
  /-- The name that it was called by, with which its complaints begin. -/
  title : Bytes
  arguments : List Bytes
  /-- What can be read so far. -/
  input : Input

/-- Something that a program says. -/
inductive Utterance where
  | shown (text : Bytes)
  | complained (text : Bytes)

namespace Utterance

def isComplaint : Utterance → Bool
  | .shown _ => false
  | .complained _ => true

end Utterance

/-- What a small program does to its host, what it says, and its code. -/
structure Reply where
  world : World
  said : List Utterance := []
  code : UInt8 := 0
  /-- How much of what can be read it has read. -/
  taken : Nat := 0

/-- How far a small program comes. -/
inductive Progress where
  | done (reply : Reply)
  /-- It has read all there is, written something, and goes on. -/
  | partly (reply : Reply)
  /-- It waits for more to read. -/
  | waits

/-- The text of bytes, one character for each. -/
def wordText (bytes : Bytes) : String := String.ofList (bytes.map fun b => Char.ofNat b.toNat)

def ascii (text : String) : Bytes := Utf8.encode text

def lineBreak : UInt8 := 0x0A

/-- The lines of a text, and whether the last one is complete. -/
def linesOf (text : Bytes) : List Bytes × Bool :=
  let parts := partsAt (· = lineBreak) text
  if parts.getLast? = some [] then (parts.dropLast, true) else (parts, false)

/-- Lines, each with the break behind it. -/
def unlines (lines : List Bytes) : Bytes := lines.flatMap (· ++ [lineBreak])

/-- A text between quotes. -/
def quoted (text : Bytes) : Bytes := 0x27 :: text ++ [0x27]

/-- A text between quotes where it holds more than plain characters. -/
def quotedIfOdd (text : Bytes) : Bytes :=
  let isPlain (b : UInt8) : Bool := isNameRest b || b ∈ [0x2D, 0x2E, 0x2F, 0x2B, 0x25, 0x40, 0x2C, 0x5D]
  if !text.isEmpty && text.all isPlain then text else quoted text

namespace ToolCall

def reply (c : ToolCall) (output : Bytes) : Reply := { world := c.world, said := [.shown output] }

def done (c : ToolCall) (output : Bytes) : Progress := .done (c.reply output)

/-- The line of a complaint. -/
def complaintLine (c : ToolCall) (text : Bytes) : Bytes := c.title ++ ascii ": " ++ text ++ [lineBreak]

def complained (c : ToolCall) (text : Bytes) : Utterance := .complained (c.complaintLine text)

def failWith (c : ToolCall) (code : UInt8) (text : Bytes) : Progress :=
  .done { world := c.world, said := [c.complained text], code }

def fail (c : ToolCall) (text : Bytes) : Progress := c.failWith 1 text

/-- The line that sends a user to the help. -/
def helpLine (c : ToolCall) : Bytes :=
  ascii "Try '" ++ c.title ++ ascii " --help' for more information.\n"

/-- A call that makes no sense. -/
def misused (c : ToolCall) (code : UInt8) (text : Bytes) : Progress :=
  .done { world := c.world, said := [.complained (c.complaintLine text ++ c.helpLine)], code }

end ToolCall

/-- The options of a call, each with its value if it takes one, and the other arguments. -/
structure Options where
  given : List (Char × Bytes) := []
  rest : List Bytes := []

namespace Options

def has (o : Options) (letter : Char) : Bool := o.given.any (·.1 == letter)

/-- The value of an option; of several the last one counts. -/
def value? (o : Options) (letter : Char) : Option Bytes :=
  (o.given.filter (·.1 == letter)).getLast?.map (·.2)

/-- The options that a program knows: letters without a value, letters with one, and long names for
letters. -/
structure Known where
  plain : String := ""
  valued : String := ""
  long : List (String × Char) := []
  /-- Whether the first other argument ends the options. -/
  endsEarly : Bool := false

/-- Reads the letters of an argument; the last one may take the next argument as its value. -/
def readLetters (known : Known) : Bytes → List Bytes → Except Bytes (List (Char × Bytes) × List Bytes)
  | [], next => .ok ([], next)
  | b :: rest, next =>
    let letter := Char.ofNat b.toNat
    if known.plain.toList.contains letter then do
      let (given, next) ← readLetters known rest next
      .ok ((letter, []) :: given, next)
    else if known.valued.toList.contains letter then
      match rest, next with
      | [], [] => .error (ascii "option requires an argument -- " ++ quoted [b])
      | [], value :: next => .ok ([(letter, value)], next)
      | _, _ => .ok ([(letter, rest)], next)
    else .error (ascii "invalid option -- " ++ quoted [b])

/-- Reads a long option. -/
def readLong (known : Known) (text : Bytes) (next : List Bytes) :
    Except Bytes (List (Char × Bytes) × List Bytes) :=
  let name := text.takeWhile (· ≠ 0x3D)
  let value := (text.dropWhile (· ≠ 0x3D)).drop 1
  let hasValue : Bool := name.length < text.length
  let found := match known.long.lookup (wordText name) with
    | some letter => [(wordText name, letter)]
    | none => known.long.filter fun entry => (ascii entry.1).take name.length == name
  match found with
  | [(_, letter)] =>
    if known.valued.toList.contains letter then
      if hasValue then .ok ([(letter, value)], next)
      else
        match next with
        | value :: next => .ok ([(letter, value)], next)
        | [] => .error (ascii "option " ++ quoted (ascii "--" ++ name) ++ ascii " requires an argument")
    else .ok ([(letter, value)], next)
  | _ => .error (ascii "unrecognized option " ++ quoted (ascii "--" ++ text))

/-- Reads arguments; each step takes one at least. -/
def readAll (known : Known) : Nat → List Bytes → Except Bytes Options
  | 0, rest => .ok { rest }
  | n + 1, arguments =>
    match arguments with
    | [] => .ok {}
    | argument :: next =>
      match argument with
      | 0x2D :: 0x2D :: [] => .ok { rest := next }
      | 0x2D :: 0x2D :: name => do
        let (given, next) ← readLong known name next
        let o ← readAll known n next
        .ok { o with given := given ++ o.given }
      | 0x2D :: b :: letters => do
        let (given, next) ← readLetters known (b :: letters) next
        let o ← readAll known n next
        .ok { o with given := given ++ o.given }
      | _ =>
        if known.endsEarly then .ok { rest := arguments }
        else do
          let o ← readAll known n next
          .ok { o with rest := argument :: o.rest }

def read (known : Known) (arguments : List Bytes) : Except Bytes Options :=
  readAll known (arguments.length + 1) arguments

end Options

namespace ToolCall

/-- Goes on with the options of a call, unless they make no sense. -/
def withOptionsOr (c : ToolCall) (code : UInt8) (known : Options.Known) (next : Options → Progress) :
    Progress :=
  match Options.read known c.arguments with
  | .ok o => next o
  | .error text => c.misused code text

def withOptions (c : ToolCall) (known : Options.Known) (next : Options → Progress) : Progress :=
  c.withOptionsOr 1 known next

/-- Whether a path means what is handed to a program to read. -/
def isInput (path : Path) : Bool := path = [0x2D]

/-- The contents of files; a dash, or no path at all, means what there is to read, for which a program
may have to wait. -/
def contents (c : ToolCall) (paths : List Path) (next : List (Path × Except Error Bytes) → Progress) :
    Progress :=
  let paths := if paths = [] then [[0x2D]] else paths
  if paths.any isInput && !c.input.isComplete then .waits
  else
    let read (found : List (Path × Except Error Bytes) × Bool) (path : Path) :
        List (Path × Except Error Bytes) × Bool :=
      if isInput path then
        (found.1 ++ [(path, .ok (if found.2 then [] else c.input.text))], true)
      else (found.1 ++ [(path, c.world.contentFor c.process path)], found.2)
    match next (paths.foldl read ([], false)).1 with
    | .done reply =>
      .done { reply with taken := if paths.any isInput then c.input.text.length else 0 }
    | other => other

/-- The end of a complaint about a file. -/
def because (cause : Error) : Bytes := ascii (": " ++ cause.cause)

/-- What is complained about for a file that cannot be read. -/
def unread (path : Path) (cause : Error) : Bytes := path ++ because cause

/-- The same by programs that tell apart what cannot be opened and what cannot be read. -/
def unopened (path : Path) (cause : Error) : Bytes :=
  if cause = .isDirectory then ascii "error reading " ++ quoted path ++ because cause
  else ascii "cannot open " ++ quoted path ++ ascii " for reading" ++ because cause

/-- What is said about files in turn, with the count of those before; those that cannot be read are
complained about where they come. -/
def aboutEach (c : ToolCall) (found : List (Path × Except Error Bytes)) (fault : Path → Error → Bytes)
    (about : Nat → Path → Bytes → Bytes) : List Utterance :=
  (found.foldl (fun (said, n) (path, content) =>
    match content with
    | .ok content => (said ++ [Utterance.shown (about n path content)], n + 1)
    | .error cause => (said ++ [c.complained (fault path cause)], n)) (([] : List Utterance), 0)).1

/-- Ends with what was said; a complaint is a failure. -/
def conclude (c : ToolCall) (said : List Utterance) (code : UInt8) : Progress :=
  .done { world := c.world, said, code := if said.any Utterance.isComplaint then code else 0 }

/-- The contents of files that can be read, and complaints about the others. -/
def readable (c : ToolCall) (found : List (Path × Except Error Bytes)) (fault : Path → Error → Bytes) :
    List (Path × Bytes) × List Utterance :=
  found.foldl (fun (kept, said) (path, content) =>
    match content with
    | .ok content => (kept ++ [(path, content)], said)
    | .error cause => (kept, said ++ [c.complained (fault path cause)])) ([], [])

/-- Works on the contents of files, one after the other. -/
def onEach (c : ToolCall) (paths : List Path) (work : Bytes → Bytes) : Progress :=
  c.contents paths fun found =>
    c.conclude (c.aboutEach found unread fun _ _ text => work text) 1

/-- Works on the contents of files in one. -/
def onText (c : ToolCall) (paths : List Path) (fault : Path → Error → Bytes) (work : Bytes → Bytes) :
    Progress :=
  c.contents paths fun found =>
    let (kept, said) := c.readable found fault
    c.conclude (said ++ [.shown (work (kept.flatMap (·.2)))]) 1

end ToolCall

/-- The whole number that a text is. -/
def integer? (text : Bytes) : Option Int :=
  match text with
  | 0x2D :: digits => (numeral? digits).map fun n => -(n : Int)
  | 0x2B :: digits => (numeral? digits).map Int.ofNat
  | digits => (numeral? digits).map Int.ofNat

end ClockWarden.Rehearsal
