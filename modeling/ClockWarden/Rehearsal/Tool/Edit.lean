import ClockWarden.Rehearsal.Tool.Lines

/-! The program that edits texts line by line. Its script is a list of instructions with the lines that
they are for. Each line is put into a space of its own, the instructions work on that in turn, and what is
left of it is shown. -/

namespace ClockWarden.Rehearsal

open Host Shell

/-- A line of a text, as a script means it. -/
inductive Mark where
  | line (number : Nat)
  | last
  /-- A line that fits an expression; none stands for the one used last. -/
  | fits (e : Option Regular)
  | every (first step : Nat)
  /-- So many lines behind another one. -/
  | later (count : Nat)

/-- The lines that an instruction is for. -/
structure Selection where
  first : Option Mark := none
  last : Option Mark := none
  isDenied : Bool := false

/-- A part of what is put in the place of what fits. -/
inductive Part where
  | text (text : Bytes)
  | group (number : Nat)
  /-- Changes the case of what follows: of one character, or up to the next such part. -/
  | letters (change : Option Bool) (isSingle : Bool)

/-- An instruction of a script. -/
inductive Instruction where
  /-- Begins a block that ends before the instruction at a place. -/
  | block (behind : Nat)
  | nothing
  | delete
  | deleteFirst
  | print
  | printFirst
  | quit (code : UInt8) (shows : Bool)
  | next
  | nextAdded
  | substitute (e : Option Regular) (parts : List Part) (nth : Nat) (isGlobal prints : Bool)
  | translate (pairs : List (UInt8 × UInt8))
  | append (text : Bytes)
  | insert (text : Bytes)
  | change (text : Bytes)
  | number
  | hold (adds : Bool)
  | get (adds : Bool)
  | exchange
  | empty
  | jump (target : Nat) (onlyIfChanged : Option Bool)

/-- An instruction with the lines that it is for. -/
structure Order where
  selection : Selection
  instruction : Instruction

namespace EditScript

/-- An instruction as it is read: jumps and blocks still lack their targets. -/
inductive Reading where
  | ready (instruction : Instruction)
  | opening
  | closing
  | label (name : Bytes)
  | jump (name : Bytes) (onlyIfChanged : Option Bool)

/-- How a script is read. -/
structure Manner where
  style : Regular.Style := {}
  /-- The whole of the script. -/
  whole : Bytes := []

/-- What reading gives; a fault comes with how much of the script is left. -/
abbrev Outcome := Except (Nat × Bytes)

def fault {α : Type} (rest : Bytes) (text : String) : Outcome α := .error (rest.length, ascii text)

def skipBlanks (text : Bytes) : Bytes := text.dropWhile fun b => b = 0x20 || b = 0x09

/-- Skips what may stand between instructions. -/
def skipBetween (text : Bytes) : Bytes := text.dropWhile fun b => ToolCall.isGap b || b = 0x3B

/-- The inside of brackets, with the line breaks and the tabs in it that are written with backslashes. -/
def unescaped : Bytes → Bytes
  | 0x5C :: 0x6E :: rest => lineBreak :: unescaped rest
  | 0x5C :: 0x74 :: rest => 0x09 :: unescaped rest
  | b :: rest => b :: unescaped rest
  | [] => []

/-- The text up to a character that no backslash protects, and what comes behind it. Within brackets the
character does not count. A backslash in front of the character goes away. -/
def upTo (ending : UInt8) (isExpression : Bool) : Nat → Bytes → Option (Bytes × Bytes)
  | 0, _ => none
  | n + 1, text =>
    match text with
    | [] => none
    | 0x5C :: b :: rest =>
      let kept : Bytes := if b = ending then [b] else [0x5C, b]
      (upTo ending isExpression n rest).map fun (more, behind) => (kept ++ more, behind)
    | b :: rest =>
      if b = ending then some ([], rest)
      else
        let length? : Option Nat :=
          if isExpression ∧ b = 0x5B then
            match Regular.bracketLength rest with
            | .ok length => some length
            | .error cause => if cause = .openBrackets ∨ cause = .emptyBrackets then none else some 0
          else some 0
        match length? with
        | none => none
        | some length =>
          (upTo ending isExpression n (rest.drop length)).map fun (more, behind) =>
            (b :: unescaped (rest.take length) ++ more, behind)

/-- The expression that a text is; an empty one stands for the last that was used. -/
def expression (m : Manner) (ignoresCase : Bool) (text rest : Bytes) : Outcome (Option Regular × Bytes) :=
  if text.isEmpty then .ok (none, rest)
  else
    let style := { m.style with ignoresCase }
    match Regular.ofText style text with
    | .ok e => .ok (some e, rest)
    | .error cause => fault rest cause.text

/-- Reads a mark, if there is one. -/
def mark (m : Manner) (text : Bytes) : Outcome (Option Mark × Bytes) := do
  match text with
  | [] => .ok (none, text)
  | b :: rest =>
    if isDigit b then
      let digits := text.takeWhile isDigit
      let n := (numeral? digits).getD 0
      match text.drop digits.length with
      | 0x7E :: rest =>
        let step := rest.takeWhile isDigit
        .ok (some (.every n ((numeral? step).getD 0)), rest.drop step.length)
      | rest => .ok (some (.line n), rest)
    else if b = 0x24 then .ok (some .last, rest)
    else if b = 0x2B then
      let digits := rest.takeWhile isDigit
      .ok (some (.later ((numeral? digits).getD 0)), rest.drop digits.length)
    else if b = 0x2F ∨ b = 0x5C then
      let (ending, rest) := if b = 0x2F then (b, rest) else ((rest.head?).getD b, rest.drop 1)
      match upTo ending true (rest.length + 1) rest with
      | none => fault [] "unterminated address regex"
      | some (inner, rest) =>
        let ignoresCase := rest.head? = some 0x49
        let rest := if ignoresCase then rest.drop 1 else rest
        let (e, rest) ← expression m ignoresCase inner rest
        .ok (some (.fits e), rest)
    else .ok (none, text)

/-- Reads the lines that an instruction is for. -/
def selection (m : Manner) (text : Bytes) : Outcome (Selection × Bytes) := do
  let (first, rest) ← mark m text
  let rest := skipBlanks rest
  let (last, rest) ← match first, rest with
    | some _, 0x2C :: rest =>
      let (last, behind) ← mark m (skipBlanks rest)
      if last.isNone then fault behind "unexpected \x60,'"
      else pure (last, behind)
    | _, _ => pure (none, rest)
  let rest := skipBlanks rest
  let signs := rest.takeWhile fun b => b = 0x21 || b = 0x20
  .ok (⟨first, last, signs.contains 0x21⟩, rest.drop signs.length)

/-- The parts of what is put in the place of what fits; each step takes a character. -/
def partsOf : Nat → Bytes → List Part
  | 0, _ => []
  | n + 1, text =>
    let put (b : UInt8) (parts : List Part) : List Part :=
      match parts with
      | .text more :: others => .text (b :: more) :: others
      | _ => .text [b] :: parts
    match text with
    | [] => []
    | 0x26 :: rest => .group 0 :: partsOf n rest
    | 0x5C :: b :: rest =>
      if isDigit b then .group (b.toNat - 48) :: partsOf n rest
      else
        match Char.ofNat b.toNat with
        | 'n' => put lineBreak (partsOf n rest)
        | 't' => put 0x09 (partsOf n rest)
        | 'U' => .letters (some true) false :: partsOf n rest
        | 'L' => .letters (some false) false :: partsOf n rest
        | 'u' => .letters (some true) true :: partsOf n rest
        | 'l' => .letters (some false) true :: partsOf n rest
        | 'E' => .letters none false :: partsOf n rest
        | _ => put b (partsOf n rest)
    | b :: rest => put b (partsOf n rest)

/-- The flags behind a substitution: which of the places is meant, whether all behind it are, whether the
result is shown, and whether case is ignored. -/
structure Flags where
  nth : Option Nat := none
  isGlobal : Bool := false
  prints : Bool := false
  ignoresCase : Bool := false

/-- Reads flags; each step takes one. -/
def flags : Nat → Flags → Bytes → Outcome (Flags × Bytes)
  | 0, f, text => .ok (f, text)
  | n + 1, f, text =>
    match text with
    | [] => .ok (f, [])
    | b :: rest =>
      if isDigit b then
        let digits := text.takeWhile isDigit
        match numeral? digits with
        | some 0 => fault (text.drop digits.length) "number option to \x60s' command may not be zero"
        | nth =>
          if f.nth.isSome then fault rest "multiple number options to \x60s' command"
          else flags n { f with nth } (text.drop digits.length)
      else
        match Char.ofNat b.toNat with
        | 'g' =>
          if f.isGlobal then fault rest "multiple \x60g' options to \x60s' command"
          else flags n { f with isGlobal := true } rest
        | 'p' =>
          if f.prints then fault rest "multiple \x60p' options to \x60s' command"
          else flags n { f with prints := true } rest
        | 'i' | 'I' => flags n { f with ignoresCase := true } rest
        | ';' | '\n' | '\x7d' | '#' => .ok (f, text)
        | ' ' | '\t' => flags n f rest
        | _ => fault rest "unknown option to \x60s'"

/-- Whether parts ask for groups beyond those that an expression has. -/
def excessGroup? (pattern : Bytes) (style : Regular.Style) (parts : List Part) : Option Nat :=
  let count := if style.isPlain then pattern.count 0x28
    else (List.range pattern.length).countP fun i => pattern[i]? = some 0x5C && pattern[i + 1]? = some 0x28
  parts.findSome? fun
    | .group number => if count < number then some number else none
    | _ => none

/-- Reads a substitution behind its letter. -/
def substitution (m : Manner) (text : Bytes) : Outcome (Instruction × Bytes) := do
  match text with
  | [] => fault [] "unterminated \x60s' command"
  | ending :: rest =>
    match upTo ending true (rest.length + 1) rest with
    | none => fault [] "unterminated \x60s' command"
    | some (pattern, rest) =>
      match upTo ending false (rest.length + 1) rest with
      | none => fault [] "unterminated \x60s' command"
      | some (target, rest) =>
        let (f, rest) ← flags (rest.length + 1) {} rest
        let (e, rest) ← expression m f.ignoresCase pattern rest
        let parts := partsOf (target.length + 1) target
        match excessGroup? pattern m.style parts with
        | some number =>
          if pattern.isEmpty then .ok (.substitute e parts (f.nth.getD 1) f.isGlobal f.prints, rest)
          else
            .error (rest.length, ascii ("invalid reference \\" ++ toString number ++
              " on \x60s' command's RHS"))
        | none => .ok (.substitute e parts (f.nth.getD 1) f.isGlobal f.prints, rest)

/-- The characters of a set for a translation. -/
def characters : Bytes → Bytes
  | 0x5C :: 0x6E :: rest => lineBreak :: characters rest
  | 0x5C :: b :: rest => b :: characters rest
  | b :: rest => b :: characters rest
  | [] => []

/-- Reads a translation behind its letter. -/
def translation (text : Bytes) : Outcome (Instruction × Bytes) :=
  match text with
  | [] => fault [] "unterminated \x60y' command"
  | ending :: rest =>
    match upTo ending false (rest.length + 1) rest with
    | none => fault [] "unterminated \x60y' command"
    | some (first, rest) =>
      match upTo ending false (rest.length + 1) rest with
      | none => fault [] "unterminated \x60y' command"
      | some (second, rest) =>
        let first := characters first
        let second := characters second
        if first.length = second.length then .ok (.translate (first.zip second), rest)
        else fault rest "strings for \x60y' command are different lengths"

/-- The text behind an instruction that takes one: up to the end of the line, which a backslash may put
off. -/
def textBehind (text : Bytes) : Bytes × Bytes :=
  let text := skipBlanks text
  let text := match text with
    | 0x5C :: 0x0A :: rest => rest
    | 0x5C :: rest => skipBlanks rest
    | _ => text
  lines text
where
  lines : Bytes → Bytes × Bytes
    | [] => ([lineBreak], [])
    | 0x5C :: b :: rest =>
      let (more, behind) := lines rest
      (b :: more, behind)
    | b :: rest =>
      if b = lineBreak then ([lineBreak], rest)
      else
        let (more, behind) := lines rest
        (b :: more, behind)

/-- The name behind an instruction that takes one. -/
def nameBehind (text : Bytes) : Bytes × Bytes :=
  let text := skipBlanks text
  let name := text.takeWhile fun b => b ≠ lineBreak && b ≠ 0x3B && b ≠ 0x7D
  ((name.reverse.dropWhile ToolCall.isGap).reverse, text.drop name.length)

/-- Reads one instruction by its letter. -/
def instruction (m : Manner) (letter : UInt8) (rest : Bytes) : Outcome (Reading × Bytes) := do
  let plain (i : Instruction) : Outcome (Reading × Bytes) := .ok (.ready i, rest)
  let withText (make : Bytes → Instruction) : Outcome (Reading × Bytes) :=
    if (skipBlanks rest).isEmpty then fault rest "expected \\ after \x60a', \x60c' or \x60i'"
    else
      let (text, rest) := textBehind rest
      .ok (.ready (make text), rest)
  match Char.ofNat letter.toNat with
  | '\x7b' => .ok (.opening, rest)
  | '\x7d' => .ok (.closing, rest)
  | 'd' => plain .delete
  | 'D' => plain .deleteFirst
  | 'p' => plain .print
  | 'P' => plain .printFirst
  | 'n' => plain .next
  | 'N' => plain .nextAdded
  | '=' => plain .number
  | 'h' => plain (.hold false)
  | 'H' => plain (.hold true)
  | 'g' => plain (.get false)
  | 'G' => plain (.get true)
  | 'x' => plain .exchange
  | 'z' => plain .empty
  | 'q' | 'Q' =>
    let digits := (skipBlanks rest).takeWhile isDigit
    let code := UInt8.ofNat ((numeral? digits).getD 0)
    .ok (.ready (.quit code (letter = 0x71)), (skipBlanks rest).drop digits.length)
  | 's' =>
    let (i, rest) ← substitution m rest
    .ok (.ready i, rest)
  | 'y' =>
    let (i, rest) ← translation rest
    .ok (.ready i, rest)
  | 'a' => withText .append
  | 'i' => withText .insert
  | 'c' => withText .change
  | ':' =>
    let (name, rest) := nameBehind rest
    .ok (.label name, rest)
  | 'b' =>
    let (name, rest) := nameBehind rest
    .ok (.jump name none, rest)
  | 't' =>
    let (name, rest) := nameBehind rest
    .ok (.jump name (some true), rest)
  | 'T' =>
    let (name, rest) := nameBehind rest
    .ok (.jump name (some false), rest)
  | _ => fault rest ("unknown command: \x60" ++ wordText [letter] ++ "'")

/-- Reads the instructions of a script. -/
def readings (m : Manner) : Nat → Bytes → Except (Nat × Bytes) (List (Selection × Reading))
  | 0, _ => .ok []
  | n + 1, text => do
    match skipBetween text with
    | [] => .ok []
    | 0x23 :: rest => readings m n (rest.dropWhile (· ≠ lineBreak))
    | text =>
      let (selection, rest) ← selection m text
      match rest with
      | [] => .error (0, ascii "missing command")
      | letter :: rest =>
        let (reading, rest) ← instruction m letter rest
        let rest := skipBlanks rest
        let needsEnd : Bool := match reading with
          | .opening => false
          | _ => true
        match rest.head? with
        | some b =>
          let isText : Bool := letter ∈ [0x61, 0x69, 0x63]
          if needsEnd && !isText && !(b ∈ [0x3B, lineBreak, 0x7D, 0x23]) then
            .error (rest.length - 1, ascii "extra characters after command")
          else
            let others ← readings m n rest
            .ok ((selection, reading) :: others)
        | none => .ok [(selection, reading)]

/-- The place behind the block that begins in front of some readings. -/
def blockEnd : Nat → Nat → List (Selection × Reading) → Option Nat
  | _, _, [] => none
  | depth, here, (_, reading) :: rest =>
    match reading with
    | .opening => blockEnd (depth + 1) (here + 1) rest
    | .closing => if depth = 0 then some (here + 1) else blockEnd (depth - 1) (here + 1) rest
    | _ => blockEnd depth (here + 1) rest

/-- The instructions of a script, with the targets of its jumps and blocks. -/
def orders (all : List (Selection × Reading)) : Except Bytes (List Order) :=
  let target? (name : Bytes) : Option Nat :=
    if name.isEmpty then some all.length
    else all.findIdx? fun entry => match entry.2 with
      | .label other => other = name
      | _ => false
  (all.mapIdx fun i entry => (i, entry)).mapM fun (i, selection, reading) =>
    match reading with
    | .ready instruction => .ok ⟨selection, instruction⟩
    | .label _ | .closing => .ok ⟨{}, .nothing⟩
    | .opening =>
      match blockEnd 0 (i + 1) (all.drop (i + 1)) with
      | some behind => .ok ⟨selection, .block behind⟩
      | none => .error (ascii "-e expression #1, char 0: unmatched \x60\x7b'")
    | .jump name onlyIfChanged =>
      match target? name with
      | some target => .ok ⟨selection, .jump target onlyIfChanged⟩
      | none => .error (ascii "can't find label for jump to \x60" ++ name ++ [0x27])

/-- Whether blocks end that did not begin. -/
def hasLooseEnd (all : List (Selection × Reading)) : Bool :=
  (all.foldl (fun (depth, isLoose) entry =>
    match entry.2 with
    | .opening => (depth + 1, isLoose)
    | .closing => (depth - 1, isLoose || depth = 0)
    | _ => (depth, isLoose)) ((0 : Nat), false)).2

/-- The instructions that a text is. -/
def ofText (m : Manner) : Except Bytes (List Order) :=
  let front (rest : Nat) : Bytes :=
    ascii ("-e expression #1, char " ++ toString (m.whole.length - rest) ++ ": ")
  match readings m (m.whole.length + 1) m.whole with
  | .error (rest, text) => .error (front rest ++ text)
  | .ok all =>
    if hasLooseEnd all then .error (front 0 ++ ascii "unexpected \x60\x7d'") else orders all

end EditScript

/-- A text that is being edited. -/
structure Editing where
  space : Bytes := []
  held : Bytes := []
  /-- Whether what is in the space, and what is held, has a break behind it. -/
  breaks : Bool := true
  heldBreaks : Bool := true
  line : Nat := 0
  left : List Bytes
  /-- Whether the last line of the text has a break behind it. -/
  isWhole : Bool
  shown : Bytes := []
  /-- What is shown behind the line. -/
  behind : Bytes := []
  isChanged : Bool := false
  last : Option Regular := none
  /-- For each instruction with a range that has begun, the line on which it ends if that is known. -/
  ranges : List (Nat × Option Nat) := []
  exit : Option UInt8 := none
  isSilent : Bool

namespace Editing

/-- Adds what is in the space to what is shown; it lacks a break where the text does. -/
def say (t : Editing) (text : Bytes) : Editing :=
  let ending : Bytes := if t.breaks then [lineBreak] else []
  let before : Bytes := match t.shown.getLast? with
    | some b => if b = lineBreak then [] else [lineBreak]
    | none => []
  { t with shown := t.shown ++ before ++ text ++ ending }

/-- Adds a text that is whole lines. -/
def sayPlain (t : Editing) (text : Bytes) : Editing :=
  let before : Bytes := match t.shown.getLast? with
    | some b => if b = lineBreak || text.isEmpty then [] else [lineBreak]
    | none => []
  { t with shown := t.shown ++ before ++ text }

/-- Ends the work on a line. -/
def endLine (t : Editing) (shows : Bool) : Editing :=
  let t := if shows && !t.isSilent then t.say t.space else t
  { t.sayPlain t.behind with behind := [] }

/-- Takes the next line, if there is one. -/
def take? (t : Editing) : Option (Bytes × Editing) :=
  match t.left with
  | [] => none
  | line :: left =>
    some (line, { t with left, line := t.line + 1, breaks := !left.isEmpty || t.isWhole })

/-- The expression that is meant, which is used last then. -/
def use (t : Editing) (e : Option Regular) : Regular × Editing :=
  let e := (e.orElse fun _ => t.last).getD .empty
  (e, { t with last := some e })

/-- Whether the line at hand is the one that a mark means. -/
def meets (t : Editing) (mark : Mark) : Bool × Editing :=
  match mark with
  | .line n => (t.line = n, t)
  | .last => (t.left.isEmpty, t)
  | .every first step =>
    (if step = 0 then t.line = first else decide (first ≤ t.line) && (t.line - first) % step = 0, t)
  | .later _ => (false, t)
  | .fits e =>
    let (e, t) := t.use e
    ((Regular.search? e t.space.toArray 0).isSome, t)

/-- Whether an instruction is for the line at hand; ranges begin and end here. -/
def selects (t : Editing) (place : Nat) (s : Selection) : Bool × Editing :=
  let (holds, t) : Bool × Editing := match s.first, s.last with
    | none, _ => (true, t)
    | some first, none => t.meets first
    | some first, some ending =>
      let without := t.ranges.filter (·.1 ≠ place)
      match t.ranges.lookup place with
      | some (some stop) =>
        if stop ≤ t.line then (t.line = stop, { t with ranges := without }) else (true, t)
      | some none =>
        let (ends, t) := t.meets ending
        (true, if ends then { t with ranges := without } else t)
      | none =>
        let isZero : Bool := match first with
          | .line 0 => true
          | _ => false
        let (begins, t) := if isZero && t.line = 1 then (true, t) else t.meets first
        if !begins then (false, t)
        else
          let stop : Option Nat := match ending with
            | .line n => some n
            | .later n => some (t.line + n)
            | .every _ step => some (if step = 0 then t.line else (t.line + step - 1) / step * step)
            | .last | .fits _ => none
          match stop, ending with
          | some n, _ => (true, if n ≤ t.line then t else { t with ranges := (place, stop) :: without })
          | none, .last =>
            (true, if t.left.isEmpty then t else { t with ranges := (place, none) :: without })
          | none, _ =>
            if isZero then
              let (ends, t) := t.meets ending
              (true, if ends then t else { t with ranges := (place, none) :: without })
            else (true, { t with ranges := (place, none) :: without })
  (holds != s.isDenied, t)

/-- The text of parts for what fits at a place. -/
def replacementText (text : Array UInt8) (first last : Nat) (taken : Regular.Taken) (parts : List Part) :
    Bytes :=
  let change (wanted : Option Bool) (b : UInt8) : UInt8 :=
    match wanted with
    | some true => Regular.upper b
    | some false => Regular.lower b
    | none => b
  let (shown, _, _) := parts.foldl (fun (shown, all, single) part =>
    match part with
    | .letters wanted isSingle =>
      if isSingle then (shown, all, wanted) else (shown, wanted, (none : Option Bool))
    | .text _ | .group _ =>
      let piece : Bytes := match part with
        | .text text => text
        | .group 0 => (text.extract first last).toList
        | .group n => match taken.lookup n with
          | some (a, b) => (text.extract a b).toList
          | none => []
        | .letters .. => []
      let piece := piece.map (change all)
      match piece, single with
      | b :: rest, some _ => (shown ++ change single b :: rest, all, none)
      | piece, _ => (shown ++ piece, all, single)) (([] : Bytes), (none : Option Bool), (none : Option Bool))
  shown

/-- Puts parts in the place of what fits from a place on; each step takes one place. -/
def substituted (e : Regular) (parts : List Part) (nth : Nat) (isGlobal : Bool) (text : Array UInt8) :
    Nat → Nat → Nat → Bool → Bytes × Bool
  | 0, start, _, _ => ((text.extract start text.size).toList, false)
  | n + 1, start, count, behindFit =>
    let rest : Bytes := (text.extract start text.size).toList
    match Regular.search? e text start with
    | none => (rest, false)
    | some (first, last, taken) =>
      let before := (text.extract start first).toList
      if first = last ∧ behindFit ∧ first = start then
        -- An empty place right behind another one does not count.
        match text[start]? with
        | some b =>
          let (more, isDone) := substituted e parts nth isGlobal text n (start + 1) count false
          (b :: more, isDone)
        | none => ([], false)
      else
        let isMeant : Bool := if isGlobal then nth ≤ count + 1 else nth = count + 1
        let piece := if isMeant then replacementText text first last taken parts
          else (text.extract first last).toList
        if isMeant && !isGlobal then
          (before ++ piece ++ (text.extract last text.size).toList, true)
        else
          let (next, step) : Nat × Bytes := if first = last then
              (last + 1, (text.extract last (last + 1)).toList) else (last, [])
          if first = last ∧ last = text.size then (before ++ piece, isMeant)
          else
            let (more, isDone) := substituted e parts nth isGlobal text n next (count + 1) (first ≠ last)
            (before ++ piece ++ step ++ more, isMeant || isDone)

/-- How the work goes on behind an instruction. -/
inductive Onward where
  | next
  | to (place : Nat)
  /-- The line is done; what is left of it may be shown. -/
  | over (shows : Bool)
  /-- The line is done, and the space is worked on again. -/
  | again

/-- Carries out an instruction. -/
def carryOut (t : Editing) (s : Selection) : Instruction → Editing × Onward
  | .block _ | .nothing => (t, .next)
  | .delete => (t, .over false)
  | .deleteFirst =>
    if t.space.contains lineBreak then
      ({ t with space := (t.space.dropWhile (· ≠ lineBreak)).drop 1 }, .again)
    else (t, .over false)
  | .print => (t.say t.space, .next)
  | .printFirst => (t.sayPlain (t.space.takeWhile (· ≠ lineBreak) ++ [lineBreak]), .next)
  | .quit code shows => ({ t with exit := some code }, .over shows)
  | .next =>
    match t.take? with
    | none => ({ t with exit := some 0 }, .over true)
    | some _ =>
      let t := t.endLine true
      match t.take? with
      | some (line, t) => ({ t with space := line }, .next)
      | none => (t, .over true)
  | .nextAdded =>
    match t.take? with
    | none => ({ t with exit := some 0 }, .over true)
    | some (line, t) =>
      let t := { t.sayPlain t.behind with behind := [] }
      ({ t with space := t.space ++ lineBreak :: line }, .next)
  | .substitute e parts nth isGlobal prints =>
    let (e, t) := t.use e
    let text := t.space.toArray
    let (space, isDone) := substituted e parts nth isGlobal text (text.size + 2) 0 0 false
    let t := { t with space, isChanged := t.isChanged || isDone }
    (if isDone && prints then t.say space else t, .next)
  | .translate pairs =>
    ({ t with space := t.space.map fun b => (pairs.lookup b).getD b }, .next)
  | .append text => ({ t with behind := t.behind ++ text }, .next)
  | .insert text => (t.sayPlain text, .next)
  | .change text =>
    let isInRange : Bool := s.last.isSome && !s.isDenied && !t.ranges.isEmpty
    (if isInRange then t else t.sayPlain text, .over false)
  | .number => (t.sayPlain (Session.decimal t.line ++ [lineBreak]), .next)
  | .hold adds =>
    ({ t with held := if adds then t.held ++ lineBreak :: t.space else t.space, heldBreaks := t.breaks },
      .next)
  | .get adds =>
    ({ t with space := if adds then t.space ++ lineBreak :: t.held else t.held, breaks := t.heldBreaks },
      .next)
  | .exchange =>
    ({ t with space := t.held, held := t.space, breaks := t.heldBreaks, heldBreaks := t.breaks }, .next)
  | .empty => ({ t with space := [] }, .next)
  | .jump target onlyIfChanged =>
    match onlyIfChanged with
    | none => (t, .to target)
    | some wanted =>
      ({ t with isChanged := false }, if t.isChanged = wanted then .to target else .next)

/-- Works on a line with the instructions from a place on, for so many of them. -/
def workOn (orders : Array Order) : Nat → Nat → Editing → Editing × Bool
  | 0, _, t => (t.endLine true, false)
  | n + 1, place, t =>
    match orders[place]? with
    | none => (t.endLine true, false)
    | some order =>
      let (holds, t) := t.selects place order.selection
      if !holds then
        match order.instruction with
        | .block behind => workOn orders n behind t
        | _ => workOn orders n (place + 1) t
      else
        match t.carryOut order.selection order.instruction with
        | (t, .next) => workOn orders n (place + 1) t
        | (t, .to place) => workOn orders n place t
        | (t, .over shows) => (t.endLine shows, false)
        | (t, .again) => (t.endLine false, true)

/-- How many instructions are carried out for a line at most. -/
def effort : Nat := 100000

/-- Works on all lines; each step takes one, or works on what is left of one again. -/
def workOnAll (orders : Array Order) : Nat → Bool → Editing → Editing
  | 0, _, t => t
  | n + 1, keeps, t =>
    if t.exit.isSome then t
    else if keeps then
      let (t, keeps) := workOn orders effort 0 t
      workOnAll orders n keeps t
    else
      match t.take? with
      | none => t
      | some (line, t) =>
        let (t, keeps) := workOn orders effort 0 { t with space := line, isChanged := false }
        workOnAll orders n keeps t

end Editing

/-- A text with a script applied to it, and the code of an early end. -/
def edited (orders : List Order) (isSilent : Bool) (text : Bytes) : Bytes × Option UInt8 :=
  let (lines, isWhole) := linesOf text
  let t := Editing.workOnAll orders.toArray (2 * text.length + 2) false { left := lines, isWhole, isSilent }
  (t.shown, t.exit)

namespace ToolCall

def sed (c : ToolCall) : Progress :=
  let long := [("quiet", 'n'), ("silent", 'n'), ("expression", 'e'), ("file", 'f'), ("regexp-extended", 'E'),
    ("in-place", 'i'), ("separate", 's'), ("null-data", 'z'), ("unbuffered", 'u')]
  c.withOptions { plain := "nErisuz", valued := "ef", long } fun o =>
    let written := o.given.filterMap fun (letter, value) =>
      if letter == 'e' then some value
      else if letter == 'f' then some ((c.world.contentFor c.process value).toOption.getD [])
      else none
    let (script, paths) : Option Bytes × List Path :=
      if written.isEmpty then (o.rest.head?, o.rest.drop 1)
      else (some (Session.joinedBy [lineBreak] written), o.rest)
    match script with
    | none => .done { world := c.world, code := 1, said := [.complained (ascii ("Usage: sed [OPTION]... " ++
        "\x7bscript-only-if-no-other-script\x7d [input-file]...\n"))] }
    | some script =>
      match EditScript.ofText { style := { isPlain := o.has 'E' || o.has 'r' }, whole := script } with
      | .error text =>
        c.failWith (if (ascii "can't find").isPrefixOf text then 4 else 1) text
      | .ok orders =>
        let isSilent : Bool := o.has 'n' || script = ascii "#n" || (ascii "#n\n").isPrefixOf script
        let fault (path : Path) (cause : Error) : Bytes :=
          if cause = .isDirectory then
            ascii (if o.has 'i' then "couldn't edit " else "couldn't read ") ++ path ++
              ascii (if o.has 'i' then ": not a regular file" else ": Is a directory")
          else ascii "can't read " ++ path ++ because cause
        if o.has 'i' then
          let (w, said) := paths.foldl (fun (w, said) path =>
            let c := { c with world := w }
            match c.look path true, w.contentFor c.process path with
            | .ok (location, .file _ mode), .ok text =>
              (c.withFiles (w.files.put location (.file (edited orders isSilent text).1 mode)), said)
            | _, .error cause => (w, said ++ [c.complained (fault path cause)])
            | _, _ => (w, said)) (c.world, ([] : List Utterance))
          .done { world := w, said, code := if said.isEmpty then 0 else 4 }
        else
          c.contents paths fun found =>
            let (kept, said) := c.readable found fault
            let texts := (kept.map (·.2)).filter (· ≠ [])
            let ended (text : Bytes) : Bytes :=
              if text.getLast? = some lineBreak then text else text ++ [lineBreak]
            let whole := texts.dropLast.flatMap ended ++ (texts.getLast?).getD []
            let (shown, code) := edited orders isSilent whole
            .done { world := c.world, said := said ++ [.shown shown],
                    code := if said.isEmpty then code.getD 0 else 2 }

end ToolCall

end ClockWarden.Rehearsal
