import ClockWarden.Rehearsal.Tool.FileWork
import ClockWarden.Rehearsal.Tool.Regular

/-! The programs that pick, change and count the lines of texts. -/

namespace ClockWarden.Rehearsal

open Host Shell

namespace ToolCall

/-- A count that may be written with a sign in front. -/
def countOf? (text : Bytes) : Option (UInt8 × Nat) :=
  match text with
  | 0x2B :: digits => (numeral? digits).map fun n => (0x2B, n)
  | 0x2D :: digits => (numeral? digits).map fun n => (0x2D, n)
  | digits => (numeral? digits).map fun n => (0x20, n)

/-- Turns a count that stands alone behind a sign into an option. -/
def withCount (signs : Bytes) (arguments : List Bytes) : List Bytes :=
  match arguments with
  | (sign :: digits) :: rest =>
    if signs.contains sign && (numeral? digits).isSome then
      (ascii "-n" ++ (if sign = 0x2B then [sign] else []) ++ digits) :: rest
    else arguments
  | _ => arguments

/-- A count behind which a letter may say how much it is to be taken for. -/
def countWithUnit? (text : Bytes) : Option (UInt8 × Nat) :=
  match text.getLast? with
  | some unit =>
    match [(0x62, 512), (0x6B, 1024), (0x4B, 1024), (0x4D, 1048576), (0x6D, 1048576)].lookup unit with
    | some factor => (countOf? text.dropLast).map fun (sign, n) => (sign, factor * n)
    | none => countOf? text
  | none => none

/-- The first lines of a text; the breaks belong to them. -/
def firstLines : Nat → Bytes → Bytes
  | 0, _ => []
  | _ + 1, [] => []
  | n + 1, text =>
    let line := text.takeWhile (· ≠ lineBreak)
    line ++ (text.drop line.length).take 1 ++ firstLines n (text.drop (line.length + 1))

def lineCount (text : Bytes) : Nat := text.countP (· = lineBreak)

/-- Shows parts of files, with their names above them where there are several. -/
def parts (c : ToolCall) (o : Options) (part : Bytes → Bytes) : Progress :=
  c.contents o.rest fun found =>
    let shows : Bool := (1 < o.rest.length || o.has 'v') && !o.has 'q'
    let name (path : Path) : Bytes := if isInput path then ascii "standard input" else path
    let about (n : Nat) (path : Path) (text : Bytes) : Bytes :=
      let heading := if shows then ascii "==> " ++ name path ++ ascii " <==\n" else []
      (if shows && decide (0 < n) then [lineBreak] else []) ++ heading ++ part text
    c.conclude (c.aboutEach found unopened about) 1

def head (c : ToolCall) : Progress :=
  let c := { c with arguments := withCount [0x2D] c.arguments }
  let long := [("lines", 'n'), ("bytes", 'c'), ("quiet", 'q'), ("verbose", 'v')]
  c.withOptions { plain := "qvz", valued := "nc", long } fun o =>
    let isBytes := o.has 'c'
    match countWithUnit? (if isBytes then (o.value? 'c').getD [] else (o.value? 'n').getD (ascii "10")) with
    | none =>
      c.fail (ascii (if isBytes then "invalid number of bytes: " else "invalid number of lines: ") ++
        quoted ((o.value? (if isBytes then 'c' else 'n')).getD []))
    | some (sign, n) =>
      let part (text : Bytes) : Bytes :=
        if isBytes then text.take (if sign = 0x2D then text.length - n else n)
        else
          let whole := lineCount text +
            if text.getLast? = some lineBreak ∨ text.isEmpty then 0 else 1
          firstLines (if sign = 0x2D then whole - n else n) text
      let isEnough : Bool := sign ≠ 0x2D &&
        (if isBytes then n ≤ c.input.text.length else n ≤ lineCount c.input.text)
      if (o.rest.isEmpty || o.rest = [[0x2D]]) && isEnough then
        .done { c.reply (part c.input.text) with taken := (part c.input.text).length }
      else c.parts o part

def tail (c : ToolCall) : Progress :=
  let c := { c with arguments := withCount [0x2D, 0x2B] c.arguments }
  let long := [("lines", 'n'), ("bytes", 'c'), ("quiet", 'q'), ("verbose", 'v'), ("follow", 'f')]
  c.withOptions { plain := "qvzfF", valued := "nc", long } fun o =>
    let isBytes := o.has 'c'
    match countWithUnit? (if isBytes then (o.value? 'c').getD [] else (o.value? 'n').getD (ascii "10")) with
    | none =>
      c.fail (ascii (if isBytes then "invalid number of bytes: " else "invalid number of lines: ") ++
        quoted ((o.value? (if isBytes then 'c' else 'n')).getD []))
    | some (sign, n) =>
      c.parts o fun text =>
        if isBytes then text.drop (if sign = 0x2B then n - 1 else text.length - n)
        else
          let whole := lineCount text +
            if text.getLast? = some lineBreak ∨ text.isEmpty then 0 else 1
          let skipped := firstLines (if sign = 0x2B then n - 1 else whole - n) text
          text.drop skipped.length

def isGap (b : UInt8) : Bool := b == 0x20 || (0x09 ≤ b && b ≤ 0x0D)

/-- The words of a text. -/
def wordsIn (text : Bytes) : List Bytes :=
  let parts := partsAt isGap text
  parts.filter (· ≠ [])

/-- Whether what a program reads comes from a file. -/
def readsFile (c : ToolCall) : Bool :=
  match (c.world.fileOf? c.process 0).map OpenFile.channel with
  | some (.file _) => true
  | _ => false

def wc (c : ToolCall) : Progress :=
  let long := [("lines", 'l'), ("words", 'w'), ("bytes", 'c'), ("chars", 'm'), ("max-line-length", 'L')]
  c.withOptions { plain := "lwcmL", long } fun o =>
    let letters := "lwmcL".toList.filter o.has
    let letters := if letters.isEmpty then ['l', 'w', 'c'] else letters
    let counts (text : Bytes) : List Nat := letters.map fun letter =>
      match letter with
      | 'l' => lineCount text
      | 'w' => (wordsIn text).length
      | 'L' => ((linesOf text).1.map List.length).foldl max 0
      | _ => text.length
    c.contents o.rest fun found =>
      let texts := found.map fun entry => (entry.2.toOption).getD []
      let isOdd (entry : Path × Except Error Bytes) : Bool :=
        match entry.2 with
        | .ok _ =>
          if isInput entry.1 then !c.readsFile
          else
            match c.look entry.1 true with
            | .ok (_, .file ..) | .ok (_, .program _) => false
            | _ => true
        | .error cause => cause = .isDirectory
      let least := if found.any isOdd then 7 else 1
      let size := (texts.map List.length).foldl Nat.add 0
      let digits := (Session.decimal size).length
      let isSingle : Bool := found.length = 1 && letters.length = 1
      let width := if isSingle then 1 else if least < digits then digits else least
      let row (counts : List Nat) (name : Path) : Bytes :=
        Session.joined (counts.map fun n => ({ width } : Layout).fill (Session.decimal n)) ++
          (if name.isEmpty then [] else 0x20 :: name) ++ [lineBreak]
      let rows := found.flatMap fun (path, content) =>
        let name := if o.rest.isEmpty then [] else path
        match content with
        | .ok text => [Utterance.shown (row (counts text) name)]
        | .error cause =>
          c.complained (unread path cause) ::
            if cause = .isDirectory then [.shown (row (letters.map fun _ => 0) name)] else []
      let total := texts.foldl (fun sums text => (sums.zip (counts text)).map fun (a, b) => a + b)
        (letters.map fun _ => 0)
      c.conclude (rows ++ if 1 < found.length then [.shown (row total (ascii "total"))] else []) 1

/-- The number at the front of a line: its sign, the digits before its point and those behind it. -/
def numberAtFront (line : Bytes) : Int × Bytes :=
  let line := line.dropWhile isGap
  let (isNegative, digits) := match line with
    | 0x2D :: digits => (true, digits)
    | digits => (false, digits)
  let whole := digits.takeWhile isDigit
  let part := match digits.drop whole.length with
    | 0x2E :: rest => rest.takeWhile isDigit
    | _ => []
  let places := (part ++ List.replicate 12 0x30).take 12
  let n := (numeral? (whole ++ places)).getD 0
  (if isNegative then -(n : Int) else n, whole)

/-- The part of a line that it is sorted by: the fields from one on, up to another. -/
def sortKey (separator : Option UInt8) (first : Nat) (last : Option Nat) (line : Bytes) : Bytes :=
  let fields : List Bytes := match separator with
    | some b => partsAt (· = b) line
    | none => (wordsIn line).map (0x20 :: ·)
  let chosen := fields.drop (first - 1)
  let chosen := match last with
    | some last => chosen.take (last + 1 - first)
    | none => chosen
  Session.joinedBy (match separator with
    | some b => [b]
    | none => []) chosen

def sort (c : ToolCall) : Progress :=
  let long := [("numeric-sort", 'n'), ("reverse", 'r'), ("unique", 'u'), ("key", 'k'), ("output", 'o'),
    ("field-separator", 't'), ("stable", 's'), ("ignore-case", 'f')]
  c.withOptionsOr 2 { plain := "nrufsbdgihVmcz", valued := "kto", long } fun o =>
    c.contents o.rest fun found =>
      let fault (path : Path) (cause : Error) : Bytes :=
        ascii (if cause = .isDirectory then "read failed: " else "cannot read: ") ++ unread path cause
      let (kept, said) := c.readable found fault
      if !said.isEmpty then c.conclude (said.take 1) 2
      else
        let lines := kept.flatMap fun entry => (linesOf entry.2).1
        let keyText := (o.value? 'k').getD []
        let first := keyText.takeWhile isDigit
        let flags := keyText.filter fun b => 0x61 ≤ b && b ≤ 0x7A
        let last := ((keyText.dropWhile (· ≠ 0x2C)).drop 1).takeWhile isDigit
        let isNumeric : Bool := o.has 'n' || o.has 'g' || flags.contains 0x6E
        let isReversed : Bool := o.has 'r' || flags.contains 0x72
        let folds : Bool := o.has 'f' || flags.contains 0x66
        let key (line : Bytes) : Bytes :=
          let chosen := match numeral? first with
            | some n => sortKey ((o.value? 't').bind List.head?) n (numeral? last) line
            | none => line
          if folds then chosen.map Regular.upper else chosen
        let before (a b : Bytes) : Bool :=
          if isNumeric then decide ((numberAtFront (key a)).1 < (numberAtFront (key b)).1)
          else bytesBefore (key a) (key b)
        let same (a b : Bytes) : Bool := !before a b && !before b a
        let below (a b : Bytes) : Bool :=
          if isReversed then
            before b a || (same a b && (o.has 's' || o.has 'u' || !bytesBefore a b))
          else before a b || (same a b && (o.has 's' || o.has 'u' || !bytesBefore b a))
        let sorted := lines.mergeSort below
        let sorted := if o.has 'u' then
            (sorted.foldl (fun kept line =>
              match kept with
              | last :: _ => if same last line then kept else line :: kept
              | [] => [line]) ([] : List Bytes)).reverse
          else sorted
        let output := unlines sorted
        match o.value? 'o' with
        | some path =>
          match c.world.openPath c.process path { writes := true, empties := true } with
          | .ok (handle, w) =>
            .done { world := (w.emit (c.process.lead 1 (some handle)) 1 output).1 }
          | .error cause =>
            c.failWith 2 (ascii "open failed: " ++ unread path cause)
        | none => c.done output

def uniq (c : ToolCall) : Progress :=
  let long := [("count", 'c'), ("repeated", 'd'), ("unique", 'u'), ("ignore-case", 'i')]
  c.withOptions { plain := "cdui", valued := "fsw", long } fun o =>
    let fault (path : Path) (cause : Error) : Bytes :=
      if cause = .isDirectory then unopened path cause else unread path cause
    c.onText (o.rest.take 1) fault fun text =>
      let runs := (linesOf text).1.foldr (fun line runs =>
        match runs with
        | (next, n) :: others =>
          let same : Bool := if o.has 'i' then next.map Regular.lower = line.map Regular.lower
            else next = line
          if same then (line, n + 1) :: others else (line, 1) :: runs
        | [] => [(line, 1)]) ([] : List (Bytes × Nat))
      let runs := runs.filter fun run =>
        (!o.has 'd' || decide (1 < run.2)) && (!o.has 'u' || decide (run.2 = 1))
      unlines (runs.map fun (line, n) =>
        if o.has 'c' then ({ width := 7 } : Layout).fill (Session.decimal n) ++ 0x20 :: line else line)

/-- The ranges that a list of places means; an open one goes on for ever. -/
def rangesOf (isFields : Bool) (text : Bytes) : Except Bytes (List (Nat × Option Nat)) :=
  let place (digits : Bytes) : Except Bytes Nat :=
    match numeral? digits with
    | some 0 => .error (ascii (if isFields then "fields are numbered from 1"
        else "byte/character positions are numbered from 1"))
    | some n => .ok n
    | none => .error (ascii (if isFields then "invalid field value " else "invalid byte/character position ") ++
        quoted digits)
  (partsAt (fun b => b = 0x2C || b = 0x20 || b = 0x09) text).mapM fun item => do
    let first := item.takeWhile (· ≠ 0x2D)
    match item.drop first.length with
    | [] =>
      if first.isEmpty then
        throw (ascii (if isFields then "fields are numbered from 1"
          else "byte/character positions are numbered from 1"))
      let n ← place first
      return (n, some n)
    | _ :: last =>
      if first.isEmpty && last.isEmpty then throw (ascii "invalid range with no endpoint: -")
      let least ← if first.isEmpty then pure 1 else place first
      if last.isEmpty then return (least, none)
      let greatest ← place last
      if greatest < least then throw (ascii "invalid decreasing range")
      return (least, some greatest)

def inRanges (ranges : List (Nat × Option Nat)) (n : Nat) : Bool :=
  ranges.any fun (first, last) => first ≤ n && (last.map fun last => decide (n ≤ last)).getD true

def cut (c : ToolCall) : Progress :=
  let long := [("delimiter", 'd'), ("fields", 'f'), ("characters", 'c'), ("bytes", 'b'),
    ("only-delimited", 's'), ("complement", 'C'), ("output-delimiter", 'O')]
  c.withOptions { plain := "snC", valued := "dfcbO", long } fun o =>
    let lists := o.given.filter fun entry => ['f', 'c', 'b'].contains entry.1
    let isFields := o.has 'f'
    match lists with
    | [] => c.misused 1 (ascii "you must specify a list of bytes, characters, or fields")
    | _ :: _ :: _ => c.misused 1 (ascii "only one list may be specified")
    | [(_, list)] =>
      match rangesOf isFields list with
      | .error text => c.misused 1 text
      | .ok ranges =>
        if decide (1 < ((o.value? 'd').getD []).length) then
          c.misused 1 (ascii "the delimiter must be a single character")
        else if o.has 'd' && !isFields then
          c.misused 1 (ascii "an input delimiter may be specified only when operating on fields")
        else
        let wanted (n : Nat) : Bool := inRanges ranges n != o.has 'C'
        let separator := ((o.value? 'd').bind List.head?).getD 0x09
        let joint := (o.value? 'O').getD [separator]
        let keep (line : Bytes) : Option Bytes :=
          if o.has 'f' then
            if !line.contains separator then if o.has 's' then none else some line
            else
              let fields := partsAt (· = separator) line
              let kept := (fields.mapIdx fun i field => (i + 1, field)).filter fun entry => wanted entry.1
              some (Session.joinedBy joint (kept.map (·.2)))
          else
            some (((line.mapIdx fun i b => (i + 1, b)).filter fun entry => wanted entry.1).map (·.2))
        c.onEach o.rest fun text => unlines ((linesOf text).1.filterMap keep)

/-- The characters that a set stands for; each step takes one at least. -/
def setOf : Nat → Bytes → Bytes
  | 0, _ => []
  | n + 1, text =>
    match text with
    | [] => []
    | 0x5B :: 0x3A :: rest =>
      let name := rest.takeWhile (· ≠ 0x3A)
      let members := ((List.range 256).map UInt8.ofNat).filter (Shape.isInClass name)
      members ++ setOf n (rest.drop (name.length + 2))
    | _ =>
      let (first, rest) := oneOf text
      match rest with
      | 0x2D :: next :: behind =>
        let (last, rest) := oneOf (next :: behind)
        ((List.range (last.toNat + 1 - first.toNat)).map fun k => UInt8.ofNat (first.toNat + k)) ++
          setOf n rest
      | _ => first :: setOf n rest
where
  /-- The first character of a set, which may stand behind a backslash. -/
  oneOf (text : Bytes) : UInt8 × Bytes :=
    match text with
    | 0x5C :: letter :: rest =>
      match escapeOf? letter with
      | some b => (b, rest)
      | none =>
        let digits := octalAhead 3 (letter :: rest)
        if digits.isEmpty then (letter, rest)
        else (UInt8.ofNat (octalValue digits), (letter :: rest).drop digits.length)
    | b :: rest => (b, rest)
    | [] => (0, [])

def tr (c : ToolCall) : Progress :=
  let long := [("delete", 'd'), ("squeeze-repeats", 's'), ("complement", 'c'), ("truncate-set1", 't')]
  c.withOptions { plain := "dscCt", long } fun o =>
    let set (text : Bytes) : Bytes := setOf (text.length + 1) text
    match o.rest with
    | [] => c.needsOperand
    | first :: others =>
      if others.isEmpty ∧ !o.has 'd' ∧ !o.has 's' then
        c.misused 1 (ascii "missing operand after " ++ quoted first ++
          ascii "\nTwo strings must be given when translating.")
      else if !c.input.isComplete then .waits
      else
        let members := set first
        let members := if o.has 'c' ∨ o.has 'C' then
            ((List.range 256).map UInt8.ofNat).filter (!members.contains ·) else members
        let targets := set ((others.head?).getD [])
        let translate (b : UInt8) : UInt8 :=
          match (members.mapIdx fun i m => (m, i)).reverse.lookup b with
          | some i => (targets[i]?).getD ((targets.getLast?).getD b)
          | none => b
        let text := if o.has 'd' then c.input.text.filter (!members.contains ·)
          else if others.isEmpty then c.input.text else c.input.text.map translate
        let squeezed := if others.isEmpty then members else targets
        let text := if o.has 's' then
            (text.foldl (fun kept b =>
              if kept.head? = some b ∧ squeezed.contains b then kept else b :: kept) []).reverse
          else text
        .done { c.reply text with taken := c.input.text.length }

def rev (c : ToolCall) : Progress :=
  c.withOptions {} fun o => c.onEach o.rest fun text =>
    let (lines, isWhole) := linesOf text
    let shown := Session.joinedBy [lineBreak] (lines.map List.reverse)
    if isWhole then shown ++ [lineBreak] else shown

def tac (c : ToolCall) : Progress :=
  c.withOptions {} fun o => c.onEach o.rest fun text =>
    let (lines, isWhole) := linesOf text
    if isWhole then unlines lines.reverse
    else
      match lines.reverse with
      | last :: others => last ++ unlines others
      | [] => []

def nl (c : ToolCall) : Progress :=
  c.withOptions { valued := "bwsnv" } fun o => c.onText o.rest unread fun text =>
    let all : Bool := o.value? 'b' = some [0x61]
    let (shown, _) := (linesOf text).1.foldl (fun (shown, n) line =>
      if line.isEmpty && !all then (shown ++ List.replicate 7 0x20 ++ [lineBreak], n)
      else
        (shown ++ ({ width := 6 } : Layout).fill (Session.decimal n) ++ 0x09 :: line ++ [lineBreak], n + 1))
      (([] : Bytes), 1)
    shown

/-- The numbers from one to another, in steps. -/
def numbers (first step last : Int) : List Int :=
  if step = 0 then []
  else
    let count := if 0 < step then (last - first) / step else (first - last) / (-step)
    (List.range (count + 1).toNat).map fun k => first + step * Int.ofNat k

/-- Parts arguments into options, some with a value behind them, and what follows; a number is no
option. -/
def optionsBeforeNumbers : List Bytes → List Bytes × List Bytes
  | [] => ([], [])
  | [last] => if isOption last then ([last], []) else ([], [last])
  | first :: second :: rest =>
    if first = ascii "-s" ∨ first = ascii "-f" then
      let (options, rest) := optionsBeforeNumbers rest
      (first :: second :: options, rest)
    else if isOption first then
      let (options, rest) := optionsBeforeNumbers (second :: rest)
      (first :: options, rest)
    else ([], first :: second :: rest)
where
  isOption (argument : Bytes) : Bool :=
    argument.head? = some 0x2D && (Fraction.ofText? argument).isNone

def seq (c : ToolCall) : Progress :=
  let isNumber (argument : Bytes) : Bool := (Fraction.ofText? argument).isSome
  let (options, numbers) := optionsBeforeNumbers c.arguments
  let long := [("separator", 's'), ("format", 'f'), ("equal-width", 'w')]
  match Options.read { plain := "w", valued := "sf", long } options with
  | .error text => c.misused 1 text
  | .ok o =>
    let o := { o with rest := numbers }
    match o.rest.find? fun argument => !isNumber argument with
    | some bad => c.misused 1 (ascii "invalid floating point argument: " ++ quoted bad)
    | none =>
      let one : Fraction := ⟨false, 1, 0⟩
      let range : Option (Fraction × Fraction × Fraction) := match o.rest.filterMap Fraction.ofText? with
        | [last] => some (one, one, last)
        | [first, last] => some (first, one, last)
        | [first, step, last] => some (first, step, last)
        | _ => none
      match range, o.rest with
      | none, _ :: _ :: _ :: extra :: _ => c.misused 1 (ascii "extra operand " ++ quoted extra)
      | none, _ => c.needsOperand
      | some (first, step, last), _ =>
        if step.digits = 0 then
          c.misused 1 (ascii "invalid Zero increment value: " ++ quoted ((o.rest[1]?).getD []))
        else
          let places := max first.places step.places
          let scale := max places last.places
          let list := ToolCall.numbers (first.scaledTo scale) (step.scaledTo scale) (last.scaledTo scale)
          let plain (n : Int) : Bytes :=
            Fraction.pointed places (n.natAbs / Nat.pow 10 (scale - places))
          let sign (n : Int) : Bytes := if n < 0 then [0x2D] else []
          let width := if o.has 'w' then
              (list.map fun n => (sign n ++ plain n).length).foldl max 0 else 0
          let shown := list.map fun n =>
            match o.value? 'f' with
            | some format => (formatted false format [sign n ++ Fraction.pointed scale n.natAbs]).written
            | none => ({ isZeroed := true, width } : Layout).number (sign n) (plain n)
          let separator := (o.value? 's').getD [lineBreak]
          c.done (if shown.isEmpty then [] else Session.joinedBy separator shown ++ [lineBreak])

/-- The parts of a line that fit an expression. -/
def matchesIn (e : Regular) (line : Array UInt8) : Nat → Nat → List (Nat × Nat)
  | 0, _ => []
  | n + 1, start =>
    match Regular.search? e line start with
    | none => []
    | some (first, last, _) =>
      if first = last then (if last < line.size then matchesIn e line n (last + 1) else [])
      else (first, last) :: matchesIn e line n last

/-- How lines are sought and shown. -/
structure Search where
  options : Options
  expression : Regular
  isNamed : Bool
  limit : Option Nat
  /-- How many lines are shown before and behind one that is found. -/
  before : Nat
  after : Nat

namespace Search

def has (q : Search) (letter : Char) : Bool := q.options.has letter

/-- The name that is shown for a file. -/
def name (path : Path) : Bytes := if isInput path then ascii "(standard input)" else path

/-- Whether a line is one of those sought. -/
def isMet (q : Search) (line : Bytes) : Bool :=
  (Regular.search? q.expression line.toArray 0).isSome != q.has 'v'

/-- Whether the lines of a text are not fit to be shown. -/
def isBinary (q : Search) (text : Bytes) : Bool :=
  text.contains 0 && !(q.has 'a' || q.has 'z' || q.has 'q' || q.has 'l' || q.has 'L' || q.has 'c')

/-- The lines of a text that are sought, with their numbers, up to the limit. -/
def selected (q : Search) (text : Bytes) : List (Nat × Bytes) :=
  let lines := ((linesOf text).1.mapIdx fun i line => (i + 1, line)).filter fun entry => q.isMet entry.2
  match q.limit with
  | some n => lines.take n
  | none => lines

/-- What stands in front of a line; the mark says whether it was sought or stands next to such a
one. -/
def front (q : Search) (path : Path) (number : Nat) (mark : UInt8) : Bytes :=
  (if q.isNamed then name path ++ [mark] else []) ++
    if q.has 'n' then Session.decimal number ++ [mark] else []

/-- The parts of a line that fit. -/
def parts (q : Search) (path : Path) (number : Nat) (line : Bytes) : Bytes :=
  if q.has 'v' then []
  else
    let text := line.toArray
    (matchesIn q.expression text (line.length + 1) 0).flatMap fun (first, last) =>
      q.front path number 0x3A ++ (text.extract first last).toList ++ [lineBreak]

/-- The lines of a text that are sought and those next to them; groups of lines that do not follow each
other are kept apart, also from what was shown before. -/
def withContext (q : Search) (isFirst : Bool) (path : Path) (text : Bytes) : Bytes :=
  let lines := (linesOf text).1
  let sought := (q.selected text).map (·.1)
  let isShown (n : Nat) : Bool := sought.any fun m => m ≤ n + q.before && n ≤ m + q.after
  (lines.mapIdx fun i line => (i + 1, line)).foldl (fun (shown, last, isFirst) (n, line) =>
    if isShown n then
      let gap : Bytes := if isFirst || last + 1 = n then [] else ascii "--\n"
      let mark : UInt8 := if sought.contains n then 0x3A else 0x2D
      let own := if q.has 'o' then (if mark = 0x3A then q.parts path n line else [])
        else q.front path n mark ++ line ++ [lineBreak]
      (shown ++ gap ++ own, n, false)
    else (shown, last, isFirst)) (([] : Bytes), 0, isFirst) |>.1

/-- What is shown for a text. -/
def shownFor (q : Search) (isFirst : Bool) (path : Path) (text : Bytes) : Bytes :=
  let lines := q.selected text
  let named := name path ++ [lineBreak]
  if q.has 'q' then []
  else if q.has 'l' then (if lines.isEmpty then [] else named)
  else if q.has 'L' then (if lines.isEmpty then named else [])
  else if q.has 'c' then
    (if q.isNamed then name path ++ [0x3A] else []) ++ Session.decimal lines.length ++ [lineBreak]
  else if q.isBinary text then []
  else if q.before + q.after = 0 then
    lines.flatMap fun (number, line) =>
      if q.has 'o' then q.parts path number line
      else q.front path number 0x3A ++ line ++ [lineBreak]
  else q.withContext isFirst path text

end Search

def grep (c : ToolCall) : Progress :=
  let long := [("count", 'c'), ("invert-match", 'v'), ("ignore-case", 'i'), ("line-number", 'n'),
    ("only-matching", 'o'), ("quiet", 'q'), ("silent", 'q'), ("files-with-matches", 'l'),
    ("files-without-match", 'L'), ("extended-regexp", 'E'), ("fixed-strings", 'F'), ("basic-regexp", 'G'),
    ("line-regexp", 'x'), ("word-regexp", 'w'), ("regexp", 'e'), ("no-messages", 's'), ("no-filename", 'h'),
    ("with-filename", 'H'), ("max-count", 'm'), ("text", 'a'), ("after-context", 'A'),
    ("before-context", 'B'), ("context", 'C'), ("recursive", 'r'), ("file", 'f'), ("null-data", 'z')]
  let usage := ascii "Usage: grep [OPTION]... PATTERNS [FILE]...\nTry 'grep --help' for more information.\n"
  match Options.read { plain := "cvinoqlLEFGxwshHayzrRPIU", valued := "efmABC", long } c.arguments with
  | .error text => .done { world := c.world, said := [.complained (c.complaintLine text ++ usage)], code := 2 }
  | .ok o =>
    let written := (o.given.filter fun entry => entry.1 == 'e').map (·.2)
    let listed := (o.given.filter fun entry => entry.1 == 'f').flatMap fun entry =>
      (linesOf ((c.world.contentFor c.process entry.2).toOption.getD [])).1
    let isGiven : Bool := o.has 'e' || o.has 'f'
    let (patterns, paths) : List Bytes × List Path :=
      if isGiven then (written, o.rest) else (o.rest.take 1, o.rest.drop 1)
    if patterns.isEmpty && !isGiven then .done { world := c.world, code := 2, said := [.complained usage] }
    else
      let style : Regular.Style :=
        ⟨o.has 'E' || o.has 'P' || c.name == "egrep", o.has 'i' || o.has 'y', true⟩
      let isFixed : Bool := o.has 'F' || c.name == "fgrep"
      let patterns := listed ++ patterns.flatMap fun pattern => (linesOf pattern).1 ++
        if pattern.isEmpty then [[]] else []
      let expression? (pattern : Bytes) : Except Bytes Regular :=
        if isFixed then .ok (pattern.foldr (fun b e => .both (style.exact b) e) .empty)
        else
          match Regular.ofText style pattern with
          | .ok e => .ok e
          | .error fault => .error (ascii fault.text)
      match patterns.mapM expression? with
      | .error text => c.failWith 2 text
      | .ok expressions =>
        let whole (e : Regular) : Regular :=
          if o.has 'x' then Regular.both .begins (.both e .ends)
          else if o.has 'w' then
            Regular.both (.border true false) (.both e (.border false true))
          else e
        let isDeep : Bool := o.has 'r' || o.has 'R'
        let paths := if isDeep then
            (if paths.isEmpty then [[Path.dot]] else paths).flatMap fun path =>
              match c.look path true with
              | .ok (here, .directory) =>
                let found := below (c.world.filesFor c.process path) path here true
                if o.rest.length ≤ 1 && !isGiven then found.map (·.drop 2) else found
              | _ => [path]
          else paths
        if isDeep && paths.isEmpty then .done { world := c.world, code := 1 }
        else
          c.contents paths fun found =>
            let number (letter : Char) : Option Nat := (o.value? letter).bind numeral?
            let q : Search :=
              { options := o
                isNamed := (decide (1 < paths.length) || o.has 'H' || isDeep) && !o.has 'h'
                expression := match expressions with
                  | first :: others => whole (others.foldl Regular.either first)
                  | [] => .one fun _ => false
                limit := number 'm'
                before := (number 'B').getD ((number 'C').getD 0)
                after := (number 'A').getD ((number 'C').getD 0) }
            let isSought (entry : Path × Except Error Bytes) : Bool :=
              match entry.2 with
              | .ok text => !(q.selected text).isEmpty
              | .error _ => false
            let found := if !o.has 'q' then found
              else
                let before := found.takeWhile fun entry => !isSought entry
                before ++ (found.drop before.length).take 1
            let (said, _) := found.foldl (fun (said, isFirst) (path, content) =>
              match content with
              | .ok text =>
                let shown := q.shownFor isFirst path text
                let warned : List Utterance := if q.isBinary text && !(q.selected text).isEmpty then
                    [c.complained (Search.name path ++ ascii ": binary file matches")] else []
                (said ++ Utterance.shown shown :: warned, isFirst && shown.isEmpty)
              | .error cause =>
                (if o.has 's' then said else said ++ [c.complained (unread path cause)], isFirst))
              (([] : List Utterance), true)
            let isFound : Bool := found.any isSought
            let isWhole : Bool := found.all fun entry => entry.2.isOk
            let code : UInt8 :=
              if !isWhole && !(isFound && o.has 'q') then 2 else if isFound then 0 else 1
            .done { world := c.world, said, code }

end ToolCall

end ClockWarden.Rehearsal
