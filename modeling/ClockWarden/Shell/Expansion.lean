import ClockWarden.Shell.Arithmetic
import ClockWarden.Shell.Pattern
import ClockWarden.Shell.Session

/-! What the words of a script turn into. Where a word stands for the output of a command, the words
are expanded again from the start once that output is known; nothing that they do in between counts. -/

namespace ClockWarden.Shell

open Host

/-- What the words of a script may depend on besides the shell. -/
structure Surroundings where
  pid : Pid
  /-- The names in a directory. -/
  names : Path → List Bytes
  /-- Whether a path names something. -/
  isThere : Path → Bool

/-- Why words cannot be expanded, or not yet. -/
inductive Halt where
  /-- The output of a command is missing. -/
  | asks (body : Command) (session : Session)
  | fails (message : Bytes)

/-- A shell that expands words, and the outputs that it may use. -/
structure Expander where
  session : Session
  answers : List Bytes

/-- An expansion. -/
abbrev Expansion := StateT Expander (Except Halt)

/-- A part of the words that are being made. -/
inductive Cell where
  /-- A character; words are split at loose ones. -/
  | byte (byte : UInt8) (isQuoted isLoose : Bool)
  /-- There is a word here, even if nothing is in it. -/
  | blank
  /-- A word ends here. -/
  | cut

namespace Expansion

def bytes (text : Bytes) (isQuoted isLoose : Bool) : List Cell :=
  text.map fun b => .byte b isQuoted isLoose

/-- The characters of cells, taken as one word; what would be several is joined as the shell joins its
parameters. -/
def markedOf (s : Session) (cells : List Cell) : List Marked :=
  cells.flatMap fun
    | .byte b isQuoted _ => [(b, isQuoted)]
    | .blank => []
    | .cut => s.parameterGap.map fun b => (b, true)

/-- The text of cells, taken as one word. -/
def textOf (s : Session) (cells : List Cell) : Bytes := (markedOf s cells).map (·.1)

def fail {α : Type} (message : Bytes) : Expansion α := throw (.fails message)

def failNamed {α : Type} (name : Bytes) (message : String) : Expansion α :=
  fail (name ++ Utf8.encode (": " ++ message))

/-- Gives a variable a value, unless it is protected. -/
def assign (name value : Bytes) : Expansion Unit := do
  let e ← get
  if e.session.isReadonly name then failNamed name "is read only"
  else set { e with session := e.session.assign name value }

/-- The cells of texts that stay apart. -/
def apart (isQuoted : Bool) : List Bytes → List Cell
  | [] => []
  | text :: rest =>
    let cells := bytes text isQuoted (!isQuoted) ++ if isQuoted then [.blank] else []
    if rest.isEmpty then cells else cells ++ .cut :: apart isQuoted rest

/-- The cells of the value of a parameter, if it has one. -/
def valueCells (around : Surroundings) (s : Session) (name : Bytes) (isQuoted : Bool) :
    Option (List Cell) :=
  if name = [0x40] ∨ (name = [0x2A] ∧ !isQuoted) then
    if s.parameters.isEmpty then none else some (apart isQuoted s.parameters)
  else
    (s.value? around.pid name).map fun value =>
      bytes value isQuoted (!isQuoted) ++ if isQuoted then [.blank] else []

/-- The cells of a parameter that has no value. -/
def noCells (name : Bytes) (isQuoted : Bool) : List Cell :=
  if isQuoted ∧ name ≠ [0x40] then [.blank] else []

/-- Computes an expression. -/
def sum (around : Surroundings) (text : Bytes) : Expansion Bytes := do
  let e ← get
  match Expression.compute (e.session.value? around.pid) text with
  | .error cause => fail (Utf8.encode cause)
  | .ok (value, given) =>
    given.reverse.forM fun (name, value) => assign name value
    return Expression.decimal value

/-- Uses a parameter, once what its use takes is known; `argument` stays undone where it is not asked
for. -/
def used (around : Surroundings) (name : Bytes) (use : Use) (isQuoted : Bool)
    (argument : Expansion (List Cell)) : Expansion (List Cell) := do
  let e ← get
  let found := valueCells around e.session name isQuoted
  let lacks (blankToo : Bool) : Bool :=
    match found with
    | none => true
    | some cells => blankToo && (textOf e.session cells).isEmpty
  let present := found.getD (noCells name isQuoted)
  let again (value : Bytes) : List Cell :=
    bytes value isQuoted (!isQuoted) ++ if isQuoted then [.blank] else []
  let isUnset : Bool := found.isNone && name ≠ [0x40] && name ≠ [0x2A] && e.session.hasOption 0x75
  match use with
  | .plain => if isUnset then failNamed name "parameter not set" else return present
  | .length =>
    if isUnset then failNamed name "parameter not set"
    else if name = [0x40] ∨ name = [0x2A] then return again (Session.decimal e.session.parameters.length)
    else return again (Session.decimal (textOf e.session present).length)
  | .otherwise blankToo => if lacks blankToo then argument else return present
  | .instead blankToo => if lacks blankToo then return noCells name isQuoted else argument
  | .assign blankToo =>
    if lacks blankToo then
      let value := textOf e.session (← argument)
      if isName name then
        assign name value
        return again value
      else failNamed name "bad variable name"
    else return present
  | .complain blankToo =>
    if lacks blankToo then
      let message := textOf e.session (← argument)
      if message.isEmpty then
        failNamed name (if blankToo then "parameter not set or null" else "parameter not set")
      else fail (name ++ Utf8.encode ": " ++ message)
    else return present
  | .withoutPrefix isLongest =>
    if isUnset then failNamed name "parameter not set"
    else return again (Shape.cutFront (Shape.pattern (markedOf e.session (← argument))) isLongest
        (textOf e.session present))
  | .withoutSuffix isLongest =>
    if isUnset then failNamed name "parameter not set"
    else return again (Shape.cutBack (Shape.pattern (markedOf e.session (← argument))) isLongest
        (textOf e.session present))
  | .bad => fail (Utf8.encode "Bad substitution")

/-- The next of the outputs that were collected. -/
def nextAnswer (body : Command) : Expansion Bytes := do
  let e ← get
  match e.answers with
  | answer :: answers =>
    set { e with answers }
    return answer
  | [] => throw (.asks body e.session)

/-- Puts the home of the user for the sign that a text begins with. -/
def homed (s : Session) (isAlone : Bool) (text : Bytes) : List Piece :=
  match text with
  | 0x7E :: rest =>
    let user := rest.takeWhile fun b => b ≠ Path.slash && b ≠ 0x3A
    let behind := rest.drop user.length
    let home :=
      if behind = [] ∧ !isAlone then none
      else if user = [] then s.get? (Utf8.encode "HOME")
      else if user = Utf8.encode "root" then some (Utf8.encode "/root")
      else none
    match home with
    | some home => [.literal home true, .literal behind false]
    | none => [.literal text false]
  | _ => [.literal text false]

/-- Puts the home of the user where a word begins with its sign. -/
def withHome (s : Session) : Word → Word
  | .literal text false :: rest => homed s rest.isEmpty text ++ rest
  | word => word

/-- Puts the home of the user where cells begin with its sign; the word that they were made of tells
whether the sign stood there itself. -/
def withHomeCells (s : Session) (word : Word) (made : List Cell) : List Cell :=
  match word with
  | .literal (0x7E :: text) false :: rest =>
    (homed s rest.isEmpty (0x7E :: text)).flatMap (fun
      | .literal text isQuoted => bytes text isQuoted (!isQuoted)
      | _ => []) ++ made.drop (text.length + 1)
  | _ => made

mutual

/-- The cells of a piece; where an argument is given, what is not quoted in it is loose. -/
def pieceCells (around : Surroundings) (isLoose : Bool) : Piece → Expansion (List Cell)
  | .literal text isQuoted =>
    return bytes text isQuoted (isLoose && !isQuoted) ++ if isQuoted then [.blank] else []
  | .parameter name use argument isQuoted =>
    used around name use isQuoted do
      let made ← cells around true argument
      let e ← get
      return if isQuoted then made else withHomeCells e.session argument made
  | .output body isQuoted => do
    let output ← nextAnswer body
    return bytes output isQuoted (!isQuoted) ++ if isQuoted then [.blank] else []
  | .sum expression isQuoted => do
    let value ← sum around (textOf (← get).session (← cells around false expression))
    return bytes value isQuoted (!isQuoted)

/-- The cells of pieces. -/
def cells (around : Surroundings) (isLoose : Bool) : List Piece → Expansion (List Cell)
  | [] => return []
  | piece :: rest => do
    let first ← pieceCells around isLoose piece
    return first ++ (← cells around isLoose rest)

end

/-- The words that are being made: those complete, last first, the one at hand, if there is one, last
character first, and whether blanks have just ended one. -/
structure Fields where
  complete : List (List Marked) := []
  current : Option (List Marked) := none
  isAfterBlank : Bool := false

namespace Fields

def close (f : Fields) : Fields :=
  match f.current with
  | none => f
  | some marked => { f with complete := marked.reverse :: f.complete, current := none }

/-- Adds a cell. Blanks among the separators end a word; every other separator ends one, too, even an
empty one, but one behind blanks belongs to them. -/
def add (separators : Bytes) (f : Fields) : Cell → Fields
  | .blank => { f with current := some (f.current.getD []), isAfterBlank := false }
  | .cut => { f.close with isAfterBlank := false }
  | .byte b isQuoted isLoose =>
    if isLoose && separators.contains b then
      if b = 0x20 ∨ b = 0x09 ∨ b = 0x0A then
        if f.current.isSome then { f.close with isAfterBlank := true } else f
      else if f.isAfterBlank then { f with isAfterBlank := false }
      else { f with current := some (f.current.getD []) }.close
    else { f with current := some ((b, isQuoted) :: f.current.getD []), isAfterBlank := false }

end Fields

/-- The words that cells make up. -/
def fieldsOf (separators : Bytes) (cells : List Cell) : List (List Marked) :=
  (cells.foldl (Fields.add separators) {}).close.complete.reverse

/-- Splits a pattern at its slashes. -/
def steps : List Marked → List (List Marked)
  | [] => [[]]
  | c :: rest =>
    if c.1 = Path.slash then [] :: steps rest
    else
      match steps rest with
      | [] => [[c]]
      | first :: others => (c :: first) :: others

def plainText (marked : List Marked) : Bytes := marked.map (·.1)

/-- The names in a directory that are of a pattern; a dot in front has to be asked for. -/
def matching (around : Surroundings) (directory : Path) (pattern : List Shape) : List Bytes :=
  let asksDot := match pattern with
    | .exact b :: _ => b = Path.dot
    | _ => false
  let names := (if asksDot then [[Path.dot], [Path.dot, Path.dot]] else []) ++ around.names directory
  (names.filter fun name => Shape.fits pattern name && (asksDot || name.head? ≠ some Path.dot)).mergeSort
    fun a b => !bytesBefore b a

/-- The paths that a pattern leads to, behind one that is there already. -/
def reached (around : Surroundings) (before : Path) : List (List Marked) → List Path
  | [] => [before]
  | [last] =>
    let pattern := Shape.pattern last
    if Shape.isOpen pattern then
      (matching around (if before = [] then [Path.dot] else before) pattern).map (before ++ ·)
    else
      let path := before ++ plainText last
      if around.isThere path then [path] else []
  | step :: rest =>
    let pattern := Shape.pattern step
    let paths :=
      if Shape.isOpen pattern then
        (matching around (if before = [] then [Path.dot] else before) pattern).map (before ++ ·)
      else [before ++ plainText step]
    paths.flatMap fun path => reached around (path ++ [Path.slash]) rest

/-- The paths that a word means as a pattern; one that leads nowhere means itself. -/
def paths (around : Surroundings) (marked : List Marked) : List Bytes :=
  if (steps marked).any fun step => Shape.isOpen (Shape.pattern step) then
    match reached around [] (steps marked) with
    | [] => [plainText marked]
    | found => found
  else [plainText marked]

/-- Splits a text behind its colons. -/
def behindColons : Bytes → List Bytes
  | [] => [[]]
  | b :: rest =>
    match behindColons rest with
    | [] => [[b]]
    | first :: others => if b = 0x3A then [b] :: first :: others else (b :: first) :: others

/-- Puts the home of the user where the parts of a value begin with its sign. -/
def withHomes (s : Session) : Word → Word
  | [] => []
  | .literal text false :: rest =>
    let parts := behindColons text
    (parts.mapIdx fun i part => homed s (rest.isEmpty || i + 1 < parts.length) part).flatten ++
      rest
  | word => word

/-- The words that a word turns into. -/
def wordsOf (around : Surroundings) (word : Word) : Expansion (List Bytes) := do
  let s := (← get).session
  let cells ← cells around false (withHome s word)
  let fields := fieldsOf (← get).session.separators cells
  if s.hasOption 0x66 then return fields.map plainText
  else return fields.flatMap (paths around)

/-- The words that several words turn into. -/
def wordsOfAll (around : Surroundings) (words : List Word) : Expansion (List Bytes) := do
  return (← words.mapM (wordsOf around)).flatten

/-- The one text that a word stands for. -/
def whole (around : Surroundings) (word : Word) : Expansion Bytes := do
  return textOf (← get).session (← cells around false (withHome (← get).session word))

/-- The one text that a word stands for as the value of a variable. -/
def wholeValue (around : Surroundings) (word : Word) : Expansion Bytes := do
  return textOf (← get).session (← cells around false (withHomes (← get).session word))

/-- The pattern that a word stands for. -/
def pattern (around : Surroundings) (word : Word) : Expansion (List Shape) := do
  return Shape.pattern (markedOf (← get).session (← cells around false (withHome (← get).session word)))

/-- Gives variables values, one after the other. -/
def assignAll (around : Surroundings) : List (Bytes × Word) → Expansion Unit
  | [] => return
  | (name, word) :: rest => do
    assign name (← wholeValue around word)
    assignAll around rest

/-- The body of the first branch of a choice with a pattern that a text is of. -/
def chosen (around : Surroundings) (text : Bytes) :
    List (List Word × Command) → Expansion (Option Command)
  | [] => return none
  | (patterns, body) :: rest => do
    let mut isFound := false
    for word in patterns do
      if !isFound then
        isFound := Shape.fits (← pattern around word) text
    if isFound then return some body else chosen around text rest

end Expansion

end ClockWarden.Shell
