import ClockWarden.Rehearsal.Tool.Condition
import ClockWarden.Rehearsal.Tool.Edit
import ClockWarden.Rehearsal.Tool.Survey
import ClockWarden.Rehearsal.Execution

/-! The programs that tell something: about their arguments, about the host, or about the process that
runs them. -/

namespace ClockWarden.Rehearsal

open Host Shell

namespace ToolCall

def basename (c : ToolCall) : Progress :=
  c.withOptions { plain := "az", valued := "s", endsEarly := true } fun o =>
    let name (path : Path) : Bytes :=
      let path := trimmedPath path
      if path = [Path.slash] then path else (path.segments.getLast?).getD []
    let without (ending text : Bytes) : Bytes :=
      if !ending.isEmpty && ending.isSuffixOf text && text ≠ ending then
        text.take (text.length - ending.length) else text
    match o.rest with
    | [] => c.needsOperand
    | first :: others =>
      if o.has 'a' ∨ o.has 's' then
        c.done (unlines (o.rest.map fun path => without ((o.value? 's').getD []) (name path)))
      else
        match others with
        | _ :: extra :: _ => c.misused 1 (ascii "extra operand " ++ quoted extra)
        | _ => c.done (without ((others.head?).getD []) (name first) ++ [lineBreak])

def dirname (c : ToolCall) : Progress :=
  c.withOptions { plain := "z" } fun o =>
    if o.rest.isEmpty then c.needsOperand
    else
      c.done (unlines (o.rest.map fun path =>
        let path := trimmedPath path
        let last := (path.reverse.takeWhile (· ≠ Path.slash)).length
        if last = path.length then [Path.dot]
        else
          let kept := path.take (path.length - last)
          trimmedPath kept))

def uname (c : ToolCall) : Progress :=
  c.withOptions { plain := "asnrvmpio" } fun o =>
    let all := o.has 'a'
    let facts := [('s', "Linux"), ('n', "localhost"), ('r', "6.1.0"), ('v', "#1 SMP"), ('m', "x86_64"),
      ('o', "GNU/Linux")]
    let chosen := facts.filter fun fact => all || o.has fact.1
    let chosen := if o.given.isEmpty then facts.take 1 else chosen
    let unknown := if o.has 'p' ∨ o.has 'i' then ["unknown"] else []
    c.done (Session.joined ((chosen.map (·.2) ++ unknown).map ascii) ++ [lineBreak])

def hostname (c : ToolCall) : Progress := c.done (ascii "localhost\n")

def identity (c : ToolCall) : Progress :=
  c.withOptions { plain := "ugGnr" } fun o =>
    c.done (ascii (if o.has 'n' then "user\n"
      else if o.has 'u' ∨ o.has 'g' ∨ o.has 'G' then "1000\n"
      else "uid=1000(user) gid=1000(user) groups=1000(user)\n"))

def whoami (c : ToolCall) : Progress := c.done (ascii "user\n")

/-- Two digits of a number. -/
def twoDigits (n : Nat) : Bytes := ({ isZeroed := true, width := 2 } : Layout).number [] (Session.decimal n)

/-- The start of the year 1970. -/
def epoch? : Option Calendar.Timestamp := do
  pure ⟨← Calendar.Date.ofParts? 1970 1 1, ← Calendar.TimeOfDay.ofParts? 0 0⟩

/-- The moment that a date stands for: so many seconds after the start of 1970 behind an at sign, or
now. -/
def moment? (now : Calendar.Timestamp) (text : Bytes) : Option Calendar.Timestamp :=
  match text with
  | 0x40 :: seconds =>
    (numeral? seconds).bind fun n =>
      if n < 253402300800 then epoch?.map fun epoch => epoch.plus (n * 1000000000) else none
  | _ => if text.isEmpty ∨ text = ascii "now" then some now else none

/-- The days from the start of 1970 to a date. -/
def daysTo (date : Calendar.Date) : Int :=
  let year := if date.month ≤ 2 then date.year - 1 else date.year
  let month : Int := (date.month + 9) % 12
  365 * year + year / 4 - year / 100 + year / 400 + (153 * month + 2) / 5 + date.day - 1 - 719468

def date (c : ToolCall) : Progress :=
  let long := [("utc", 'u'), ("universal", 'u'), ("date", 'd'), ("rfc-3339", 'X'), ("iso-8601", 'I')]
  c.withOptions { plain := "uRI", valued := "dfrsX", long } fun o =>
    let now := c.world.date.plus c.world.now.nanos
    match moment? now ((o.value? 'd').getD []) with
    | none => c.fail (ascii "invalid date " ++ quoted ((o.value? 'd').getD []))
    | some moment =>
      let day := moment.date
      let seconds := moment.time.second
      let put (letter : UInt8) : Bytes :=
        let year := Expression.decimal day.year
        match Char.ofNat letter.toNat with
        | 'Y' => year
        | 'm' => twoDigits day.month
        | 'd' => twoDigits day.day
        | 'H' => twoDigits (seconds / 3600)
        | 'M' => twoDigits (seconds / 60 % 60)
        | 'S' => twoDigits (seconds % 60)
        | 'F' => year ++ 0x2D :: twoDigits day.month ++ 0x2D :: twoDigits day.day
        | 'T' => twoDigits (seconds / 3600) ++ 0x3A :: twoDigits (seconds / 60 % 60) ++
            0x3A :: twoDigits (seconds % 60)
        | 's' => Expression.decimal (86400 * daysTo day + seconds)
        | 'Z' => ascii "UTC"
        | 'z' => ascii "+0000"
        | 'n' => [lineBreak]
        | 't' => [0x09]
        | '%' => [0x25]
        | _ => [0x25, letter]
      let rec shown : Bytes → Bytes
        | 0x25 :: letter :: rest => put letter ++ shown rest
        | b :: rest => b :: shown rest
        | [] => []
      match o.rest with
      | (0x2B :: format) :: _ => c.done (shown format ++ [lineBreak])
      | bad :: _ => c.fail (ascii "invalid date " ++ quoted bad)
      | [] => c.done (shown (ascii "%F %T UTC") ++ [lineBreak])

def workingDirectory (c : ToolCall) : Progress :=
  c.done (Files.pathOf c.process.directory ++ [lineBreak])

def printenv (c : ToolCall) : Progress :=
  c.withOptions { plain := "0", endsEarly := true } fun o =>
    let ending : UInt8 := if o.has '0' then 0 else lineBreak
    if o.rest.isEmpty then c.done (c.process.environment.flatMap (· ++ [ending]))
    else
      let found := o.rest.map fun name => c.process.valueOf? (wordText name)
      .done { c.reply ((found.filterMap id).flatMap (· ++ [ending])) with
              code := if found.all Option.isSome then 0 else 1 }

def which (c : ToolCall) : Progress :=
  c.withOptions { plain := "a" } fun o =>
    let isProgram (path : Path) : Bool :=
      match c.look path true with
      | .ok (_, .program _) => true
      | .ok (_, .file _ mode) => Node.isExecutable mode
      | _ => false
    let found := o.rest.map fun name =>
      if hasSlash name then if isProgram name then some name else none
      else ((searchPath c.process).map (within · name)).find? isProgram
    .done { c.reply (unlines (found.filterMap id)) with
            code := if found.all Option.isSome && !found.isEmpty then 0 else 1 }

def test (c : ToolCall) : Progress :=
  let words? : Option (List Bytes) :=
    if c.name == "[" then
      if c.arguments.getLast? = some [0x5D] then some c.arguments.dropLast else none
    else some c.arguments
  match words? with
  | none => c.failWith 2 (ascii "missing ']'")
  | some words =>
    match Condition.outcome (c.world.testGround c.process) words with
    | .ok holds => .done { world := c.world, code := if holds then 0 else 1 }
    | .error fault => c.failWith 2 (fault.inProgram words)

def printf (c : ToolCall) : Progress :=
  match if c.arguments.head? = some (ascii "--") then c.arguments.drop 1 else c.arguments with
  | [] => c.misused 1 (ascii "missing operand")
  | format :: rest =>
    let w := formatted false format rest
    .done { world := c.world, said := utterances c.title w,
            code := if w.faults.any fun entry => entry.2.isSerious then 1 else 0 }

/-- Lists the signals, or says the name or the number of one. -/
def listSignals (c : ToolCall) (rest : List Bytes) : Progress :=
  match rest with
  | [] =>
    let names := ((List.range 31).map fun i => (⟨i + 1⟩ : Signal).shortName?.getD "").filter (· ≠ "")
    c.done (Session.joined (names.map ascii) ++ [lineBreak])
  | word :: _ =>
    match numeral? word with
    | some n =>
      match (⟨n % 128⟩ : Signal).shortName? with
      | some name => c.done (ascii name ++ [lineBreak])
      | none => c.fail (ascii "unknown signal name " ++ word)
    | none =>
      match Signal.ofName? (wordText word).toUpper with
      | some signal => c.done (Session.decimal signal.number ++ [lineBreak])
      | none => c.fail (ascii "unknown signal name " ++ word)

/-- Sends signals. -/
def kill (c : ToolCall) : Progress :=
  let signalOf? (word : Bytes) : Option Signal :=
    match numeral? word with
    | some n => some ⟨n⟩
    | none => Signal.ofName? (wordText word).toUpper
  let send (name : Bytes) (signal : Option Signal) (targets : List Bytes) : Progress :=
    match signal with
    | none => c.fail (ascii "invalid argument " ++ name)
    | some signal =>
      c.forEach false targets fun c target =>
        match integer? target with
        | none => .error (ascii "failed to parse argument: " ++ quoted target)
        | some n =>
          let result := if n < 0 then c.world.sendGroup (UInt32.ofNat n.natAbs) signal
            else if n = 0 then c.world.sendGroup c.process.group signal
            else if (c.world.find? (UInt32.ofNat n.natAbs)).isSome then
              (.ok (), c.world.send (UInt32.ofNat n.natAbs) signal)
            else (.error Errno.noSuchProcess, c.world)
          match result with
          | (.ok (), w) => .ok (w, [])
          | (.error _, _) => .error (ascii "(" ++ target ++ ascii "): No such process")
  match c.arguments with
  | [0x2D, 0x6C] :: rest => c.listSignals rest
  | [0x2D, 0x73] :: name :: rest => send name (signalOf? name) rest
  | [0x2D, 0x2D] :: rest => send [] (some .terminate) rest
  | (0x2D :: name) :: rest => send name (signalOf? name) (rest.filter (· ≠ [0x2D, 0x2D]))
  | rest => send [] (some .terminate) rest

/-- The value of an expression: a text, which may be a number. -/
abbrev Term := Bytes

namespace Term

def ofBool (b : Bool) : Term := ascii (if b then "1" else "0")

/-- Whether a value counts as nothing. -/
def isNull (t : Term) : Bool := t.isEmpty || integer? t = some 0

/-- The outcome of an operator, by its rank: the lesser ranks bind tighter. -/
def operators : List (String × Nat) :=
  [(":", 0), ("*", 1), ("/", 1), ("%", 1), ("+", 2), ("-", 2), ("<", 3), ("<=", 3), ("=", 3), ("==", 3),
    ("!=", 3), (">=", 3), (">", 3), ("&", 4), ("|", 5)]

/-- The part of a text that a pattern takes at its front. -/
def taken (text pattern : Bytes) : Except Bytes Term :=
  match Regular.ofText {} pattern with
  | .error fault => .error (ascii fault.text)
  | .ok e =>
    let array := text.toArray
    let hasGroup : Bool := holdsGroup pattern
    match Regular.longest? e array 0 with
    | some (last, groups) =>
      if hasGroup then
        match groups.lookup 1 with
        | some (a, b) => .ok (array.extract a b).toList
        | none => .ok []
      else .ok (Session.decimal last)
    | none => .ok (if hasGroup then [] else ascii "0")
where
  /-- Whether a pattern has a group. -/
  holdsGroup (pattern : Bytes) : Bool := World.holds [0x5C, 0x28] pattern

def combine (operator : String) (a b : Term) : Except Bytes Term :=
  let number (compute : Int → Int → Except Bytes Int) : Except Bytes Term :=
    match integer? a, integer? b with
    | some m, some n => (compute m n).map Expression.decimal
    | _, _ => .error (ascii "non-integer argument")
  let compare (holds : Int → Int → Bool) (otherwise : Bool) : Except Bytes Term :=
    match integer? a, integer? b with
    | some m, some n => .ok (ofBool (holds m n))
    | _, _ => .ok (ofBool otherwise)
  match operator with
  | ":" => taken a b
  | "*" => number fun m n => .ok (m * n)
  | "/" => number fun m n => if n = 0 then .error (ascii "division by zero") else .ok (m.tdiv n)
  | "%" => number fun m n => if n = 0 then .error (ascii "division by zero") else .ok (m.tmod n)
  | "+" => number fun m n => .ok (m + n)
  | "-" => number fun m n => .ok (m - n)
  | "<" => compare (fun m n => m < n) (bytesBefore a b)
  | "<=" => compare (fun m n => m ≤ n) (!bytesBefore b a)
  | ">" => compare (fun m n => n < m) (bytesBefore b a)
  | ">=" => compare (fun m n => n ≤ m) (!bytesBefore a b)
  | "!=" => compare (fun m n => m ≠ n) (a ≠ b)
  | "&" => .ok (if isNull a || isNull b then ascii "0" else a)
  | "|" => .ok (if !isNull a then a else if !isNull b then b else ascii "0")
  | _ => compare (fun m n => m = n) (a = b)

mutual

/-- Reads an expression whose operators are at most of a rank. -/
def read (last : Bytes) : Nat → Nat → List Bytes → Except Bytes (Term × List Bytes)
  | 0, _, _ => .error (ascii "syntax error")
  | n + 1, rank, words => do
    let (left, rest) ← primary last n words
    readRest last n rank left rest

/-- Reads what is combined with an expression. -/
def readRest (last : Bytes) : Nat → Nat → Term → List Bytes → Except Bytes (Term × List Bytes)
  | 0, _, _, _ => .error (ascii "syntax error")
  | n + 1, rank, left, words => do
    match words with
    | word :: rest =>
      match operators.lookup (wordText word) with
      | some r =>
        if r ≤ rank then
          if r = 0 then
            let (right, rest) ← primary last n rest
            readRest last n rank (← combine (wordText word) left right) rest
          else
            let (right, rest) ← read last n (r - 1) rest
            readRest last n rank (← combine (wordText word) left right) rest
        else .ok (left, words)
      | none => .ok (left, words)
    | [] => .ok (left, [])

/-- Reads one value. -/
def primary (last : Bytes) : Nat → List Bytes → Except Bytes (Term × List Bytes)
  | 0, _ => .error (ascii "syntax error")
  | n + 1, words => do
    match words with
    | [] => .error (ascii "syntax error: missing argument after " ++ quoted last)
    | word :: rest =>
      match wordText word, rest with
      | "(", _ =>
        let (inner, rest) ← read last n 5 rest
        match rest with
        | [0x29] :: rest => .ok (inner, rest)
        | other :: _ => .error (ascii "syntax error: expecting ')' instead of " ++ quoted other)
        | [] => .error (ascii "syntax error: expecting ')' after " ++ quoted last)
      | "length", text :: rest => .ok (Session.decimal text.length, rest)
      | "substr", text :: first :: length :: rest =>
        match integer? first, integer? length with
        | some first, some length =>
          .ok (if first < 1 ∨ length < 1 then [] else (text.drop (first.toNat - 1)).take length.toNat, rest)
        | _, _ => .ok ([], rest)
      | "index", text :: characters :: rest =>
        .ok (match text.findIdx? characters.contains with
          | some i => Session.decimal (i + 1)
          | none => ascii "0", rest)
      | "match", text :: pattern :: rest => .ok (← taken text pattern, rest)
      | _, _ => .ok (word, rest)

end

end Term

def expr (c : ToolCall) : Progress :=
  let words := if c.arguments.head? = some (ascii "--") then c.arguments.drop 1 else c.arguments
  if words.isEmpty then c.misused 2 (ascii "missing operand")
  else
    match Term.read ((words.getLast?).getD []) (8 * words.length + 8) 5 words with
    | .error text => c.failWith 2 text
    | .ok (_, extra :: _) => c.failWith 2 (ascii "syntax error: unexpected argument " ++ quoted extra)
    | .ok (value, []) =>
      .done { c.reply (value ++ [lineBreak]) with code := if Term.isNull value then 1 else 0 }

/-- The digits of a decimal number in nanoseconds: its whole part and the digits behind the point. -/
def decimalNanos (whole part : Bytes) (exponent : Int) : Nat :=
  let digits := (numeral? (whole ++ part)).getD 0
  let places := (9 : Int) - part.length + exponent
  if 0 ≤ places then digits * Nat.pow 10 (if 30 < places then 30 else places.toNat)
  else
    let divisor := Nat.pow 10 (if places < -400 then 400 else (-places).toNat)
    (digits + divisor - 1) / divisor

/-- The nanoseconds that a length of time means; none for one without an end. -/
def lengthOf? (argument : Bytes) : Option (Option Nat) := do
  let text := argument.dropWhile isGap
  let text := match text with
    | 0x2B :: rest => rest
    | _ => text
  let (isNegative, text) := match text with
    | 0x2D :: rest => (true, rest)
    | _ => (false, text)
  let lowered := wordText (text.map Regular.lower)
  if lowered = "infinity" ∨ lowered = "inf" then return none
  let (nanos, unit) ← match text with
    | 0x30 :: x :: rest =>
      if (x = 0x78 ∨ x = 0x58) ∧ (rest.head?.bind Expression.hexValue?).isSome then
        let digits := rest.takeWhile fun b => (Expression.hexValue? b).isSome
        pure (Expression.digitsValue 16 digits * 1000000000, rest.drop digits.length)
      else decimal text
    | _ => decimal text
  let factor ← match unit with
    | [] | [0x73] => some 1
    | [0x6D] => some 60
    | [0x68] => some 3600
    | [0x64] => some 86400
    | _ => none
  if isNegative ∧ nanos ≠ 0 then none else return some (factor * nanos)
where
  /-- A decimal number at the front of a text, in nanoseconds, and what comes behind it. -/
  decimal (text : Bytes) : Option (Nat × Bytes) :=
    let whole := text.takeWhile isDigit
    let rest := text.drop whole.length
    let (part, rest) := match rest with
      | 0x2E :: digits => (digits.takeWhile isDigit, digits.dropWhile isDigit)
      | _ => ([], rest)
    if (whole ++ part).isEmpty then none
    else
      let exponent : Option (Int × Bytes) := match rest with
        | e :: digits =>
          if e = 0x65 ∨ e = 0x45 then
            let (isNegative, digits) := match digits with
              | 0x2D :: digits => (true, digits)
              | 0x2B :: digits => (false, digits)
              | _ => (false, digits)
            (numeral? (digits.takeWhile isDigit)).map fun n =>
              ((if isNegative then -(n : Int) else n), digits.dropWhile isDigit)
          else none
        | [] => none
      match exponent with
      | some (n, rest) => some (decimalNanos whole part n, rest)
      | none => some (decimalNanos whole part 0, rest)

/-- A program of the host that does its work by itself, by its name. -/
def tool? (name : String) : Option (ToolCall → Progress) :=
  match name with
  | "true" | "sync" => some fun c => c.done []
  | "false" => some fun c => .done { world := c.world, code := 1 }
  | "echo" => some fun c => c.done (echoedPlainly c.arguments)
  | "printf" => some printf
  | "test" | "[" => some test
  | "pwd" => some workingDirectory
  | "printenv" => some printenv
  | "kill" => some kill
  | "cat" => some cat
  | "ls" => some ls
  | "mkdir" => some mkdir
  | "rmdir" => some rmdir
  | "rm" => some rm
  | "touch" => some touch
  | "ln" => some ln
  | "mv" => some mv
  | "cp" => some cp
  | "readlink" => some readlink
  | "realpath" => some realpath
  | "chmod" => some chmod
  | "mktemp" => some mktemp
  | "tee" => some tee
  | "basename" => some basename
  | "dirname" => some dirname
  | "tr" => some tr
  | "grep" | "egrep" | "fgrep" => some grep
  | "head" => some head
  | "tail" => some tail
  | "wc" => some wc
  | "sort" => some sort
  | "uniq" => some uniq
  | "cut" => some cut
  | "rev" => some rev
  | "tac" => some tac
  | "nl" => some nl
  | "seq" => some seq
  | "sed" => some sed
  | "find" => some find
  | "stat" => some stat
  | "expr" => some expr
  | "uname" => some uname
  | "hostname" => some hostname
  | "id" => some identity
  | "whoami" => some whoami
  | "date" => some date
  | "which" => some which
  | "nproc" => some fun c => c.done (ascii "4\n")
  | "tty" => some fun c => .done { c.reply (ascii "not a tty\n") with code := 1 }
  | _ => none

end ToolCall

end ClockWarden.Rehearsal
