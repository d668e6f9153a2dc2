import ClockWarden.CommandLine.Stop
import ClockWarden.Text.Similarity

/-! Reading a command line. Arguments are taken in order; an option waits for its value until the next
argument, and its value is looked at when the next option or the end is reached. What is not given is
then taken from the environment. -/

namespace ClockWarden.CommandLine

open Host

/-- What has been read of a command line: the options used, in order, their values, and an option that
has been named last, with its value if that has come. -/
structure Progress where
  used : List Flag := []
  settings : Settings := {}
  waiting : Option (Flag × Option Bytes) := none

namespace Progress

/-- The options used, as a usage line shows them. -/
def shown (p : Progress) : List Shown := p.used.map .flag

/-- Takes the value of an option. One that has been used before is no longer counted as used. -/
def take (p : Progress) (flag : Flag) (value : Bytes) : Progress × Option Stop :=
  if flag ∈ p.used then ({ p with used := p.used.filter (· ≠ flag) }, some (.repeated flag))
  else
    let p := { p with used := p.used ++ [flag] }
    match p.settings.set flag value with
    | .ok settings => ({ p with settings }, none)
    | .error .missing => (p, some (.missingValue flag))
    | .error .notText => (p, some .notText)
    | .error (.invalid reason) => (p, some (.badValue flag (Utf8.decodeLossy value) reason))

/-- Takes the value of the option that has been waiting, if there is one. -/
def settle (p : Progress) : Progress × Option Stop :=
  match p.waiting with
  | none => (p, none)
  | some (flag, none) => ({ p with waiting := none }, some (.missingValue flag))
  | some (flag, some value) => { p with waiting := none }.take flag value

/-- Takes the value of the waiting option and goes on if nothing is wrong with it. -/
def settled (p : Progress) : Except Stop Progress :=
  match p.settle with
  | (p, none) => .ok p
  | (_, some stop) => .error stop

end Progress

/-- The name that an unknown option is most like, if it is like one at all. -/
def similarOption? (name : String) : Option Shown :=
  let threshold : Decimal.Binary64 := .share 7 10
  let better (best : Option (Shown × Decimal.Binary64)) (s : Shown) :
      Option (Shown × Decimal.Binary64) :=
    let share := Text.similarity name.toList s.name.toList
    if !threshold.isLess share then best
    else
      match best with
      | some (_, other) => if share.isLess other then best else some (s, share)
      | none => some (s, share)
  ((Shown.all.foldl better none).map (·.1))

/-- The stop at an option that is not known: the value of the waiting option is taken first, whatever
is wrong with it. -/
def unknownOption (p : Progress) (name : String) : Stop :=
  let p := p.settle.1
  let similar := similarOption? name
  let used := match similar with
    | some s => if s ∈ p.shown then p.shown else p.shown ++ [s]
    | none => p.shown
  .unknown ("--" ++ name) similar true used

/-- Takes an argument that begins with two dashes and goes on. -/
def longOption (p : Progress) (argument : Bytes) : Except Stop Progress :=
  let equals := Environment.equals
  let nameBytes := argument.takeWhile (· ≠ equals)
  let value? := match argument.dropWhile (· ≠ equals) with
    | [] => none
    | _ :: value => some value
  match Utf8.decode? nameBytes with
  | none => .error (unknownOption p (Utf8.decodeLossy nameBytes))
  | some name =>
    match Shown.all.find? (·.name = name), value? with
    | none, _ => .error (unknownOption p name)
    | some .help, none => do
      let _ ← p.settled
      .error .help
    | some .help, some value =>
      .error (.unexpectedValue (Utf8.decodeLossy value) (!p.used.isEmpty))
    | some (.flag flag), none => do
      let p ← p.settled
      pure { p with waiting := some (flag, none) }
    | some (.flag flag), some value => do
      let p ← p.settled
      match p.take flag value with
      | (p, none) => pure p
      | (_, some stop) => .error stop

/-- Takes an argument that begins with one dash and goes on behind it. -/
def shortOption (p : Progress) (letters : Bytes) : Except Stop Progress :=
  match Utf8.scan letters with
  | .char c :: _ =>
    if c = 'h' then do
      let _ ← p.settled
      .error .help
    else .error (.unknown (String.ofList ['-', c]) none true [])
  | _ => .error (.unknown ("-" ++ Utf8.decodeLossy letters) none true [])

/-- Takes the arguments up to the two dashes that stand alone, and gives what comes behind these. -/
def takeArguments (p : Progress) : List Bytes → Except Stop (Progress × List Bytes)
  | [] => .ok (p, [])
  | argument :: rest =>
    match argument with
    | [0x2D, 0x2D] => .ok (p, rest)
    | 0x2D :: 0x2D :: long =>
      match longOption p long with
      | .ok p => takeArguments p rest
      | .error stop => .error stop
    | 0x2D :: b :: letters =>
      match shortOption p (b :: letters) with
      | .ok p => takeArguments p rest
      | .error stop => .error stop
    | value =>
      match p.waiting with
      | some (flag, none) => takeArguments { p with waiting := some (flag, some value) } rest
      | _ => .error (.unknown (Utf8.decodeLossy value) none false [])

/-- Takes an option from the environment, unless it has been given. -/
def fromEnvironment (env : Environment) (p : Progress) (flag : Flag) : Except Stop Progress :=
  if flag ∈ p.used then .ok p
  else
    match flag.standIn.bind fun name => env.get? (Utf8.encode name) with
    | none => .ok p
    | some value =>
      match p.take flag value with
      | (p, none) => .ok p
      | (_, some stop) => .error stop

/-- The settings that a command line and an environment make. -/
def Settings.ofArguments (arguments : List Bytes) (env : Environment) : Except Stop Settings := do
  let (p, managed) ← takeArguments {} arguments
  let p ← p.settled
  let managed ← managed.mapM fun argument =>
    match Utf8.decode? argument with
    | some text => .ok text
    | none => .error .notText
  let p ← Flag.all.foldlM (fromEnvironment env) p
  pure { p.settings with arguments := managed }

end ClockWarden.CommandLine
