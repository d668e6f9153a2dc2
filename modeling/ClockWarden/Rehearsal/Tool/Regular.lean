import ClockWarden.Rehearsal.Tool.Call
import ClockWarden.Shell.Pattern

/-! Regular expressions in the two ways of writing them: with signs that are plain, or with signs that need
a backslash in front. Of all texts that fit, the first is taken, and of those that begin there the longest. -/

namespace ClockWarden.Rehearsal

open Host Shell

/-- A regular expression. -/
inductive Regular where
  | empty
  | one (test : UInt8 → Bool)
  | begins
  | ends
  /-- A border of a word: where one begins, where one ends, or either. -/
  | border (atStart atEnd : Bool)
  | group (number : Nat) (inner : Regular)
  | again (number : Nat)
  | both (first second : Regular)
  | either (first second : Regular)
  | repeated (least : Nat) (most : Option Nat) (inner : Regular)

namespace Regular

/-- What the groups of an expression have taken, by their numbers. -/
abbrev Taken := List (Nat × Nat × Nat)

/-- A place in a text, and what groups have taken up to it. -/
abbrev Place := Nat × Taken

def isWordByte (b : UInt8) : Bool := isNameRest b

/-- Drops all but the first of the places with the same position. -/
def distinct (places : List Place) : List Place :=
  places.foldl (fun kept place => if kept.any (·.1 = place.1) then kept else kept ++ [place]) []

/-- The places that are reached by going on from some, over and over; those of every round in front of
those of the rounds before. -/
def rounds (step : Place → List Place) (least : Nat) (most : Option Nat) :
    Nat → Nat → List Place → List Place → List Place
  | 0, _, _, reached => reached
  | n + 1, count, here, reached =>
    let reached := if least ≤ count then here ++ reached else reached
    if most = some count ∨ here.isEmpty then reached
    else
      let next := distinct (here.flatMap fun place =>
        (step place).filter fun next => next.1 ≠ place.1 || decide (count < least))
      rounds step least most n (count + 1) next reached

/-- The places at which what fits an expression from a place on may end. -/
def reached (text : Array UInt8) : Regular → Place → List Place
  | .empty, place => [place]
  | .one test, (i, taken) =>
    match text[i]? with
    | some b => if test b then [(i + 1, taken)] else []
    | none => []
  | .begins, place => if place.1 = 0 then [place] else []
  | .ends, place => if place.1 = text.size then [place] else []
  | .border atStart atEnd, place =>
    let before := if place.1 = 0 then false else ((text[place.1 - 1]?).map isWordByte).getD false
    let behind := ((text[place.1]?).map isWordByte).getD false
    if (atStart && !before && behind) || (atEnd && before && !behind) then [place] else []
  | .group number inner, (i, taken) =>
    (reached text inner (i, taken)).map fun (j, taken) => (j, (number, i, j) :: taken)
  | .again number, (i, taken) =>
    match taken.lookup number with
    | some (a, b) =>
      let part := (text.extract a b).toList
      if (text.extract i (i + part.length)).toList = part then [(i + part.length, taken)] else []
    | none => []
  | .both first second, place => distinct ((reached text first place).flatMap (reached text second))
  | .either first second, place => reached text first place ++ reached text second place
  | .repeated least most inner, place =>
    rounds (reached text inner) least most (text.size + least + 2) 0 [place] []

/-- The longest of the texts that fit from a place on: its end, and what groups have taken. -/
def longest? (e : Regular) (text : Array UInt8) (start : Nat) : Option Place :=
  (reached text e (start, [])).foldl (fun best place =>
    match best with
    | none => some place
    | some found => if found.1 < place.1 then some place else some found) none

/-- The first text that fits, from a place on: where it begins and ends, and what groups have taken. -/
def search? (e : Regular) (text : Array UInt8) (start : Nat) : Option (Nat × Place) :=
  (List.range (text.size + 1 - start)).findSome? fun n =>
    (longest? e text (start + n)).map fun place => (start + n, place)

/-- Why a text is no expression. -/
inductive Fault where
  | trailingBackslash | openGroup | loneClosing | openBrackets | emptyBrackets | unknownClass
  | unknownSymbol | badRange | bareClass | openBounds | oddBounds | badBounds | tooBig | nothingToRepeat
  | badReference
deriving DecidableEq

/-- The words for a fault. -/
def Fault.text : Fault → String
  | .trailingBackslash => "Trailing backslash"
  | .openGroup => "Unmatched ( or \\("
  | .loneClosing => "Unmatched ) or \\)"
  | .openBrackets => "Unmatched [, [^, [:, [., or [="
  | .emptyBrackets => "Invalid regular expression"
  | .unknownClass => "Invalid character class name"
  | .unknownSymbol => "Invalid collation character"
  | .badRange => "Invalid range end"
  | .bareClass => "character class syntax is [[:space:]], not [:space:]"
  | .openBounds => "Unmatched \\\x7b"
  | .oddBounds | .badBounds => "Invalid content of \\\x7b\\\x7d"
  | .tooBig => "Regular expression too big"
  | .nothingToRepeat => "Invalid preceding regular expression"
  | .badReference => "Invalid back reference"

/-- How an expression is written. -/
structure Style where
  /-- Whether signs are plain. -/
  isPlain : Bool := false
  ignoresCase : Bool := false
  /-- Whether signs that make no sense where they stand are taken as they are. -/
  isLenient : Bool := false

def lower (b : UInt8) : UInt8 := if 0x41 ≤ b ∧ b ≤ 0x5A then b + 32 else b
def upper (b : UInt8) : UInt8 := if 0x61 ≤ b ∧ b ≤ 0x7A then b - 32 else b

namespace Style

def one (style : Style) (test : UInt8 → Bool) : Regular :=
  if style.ignoresCase then .one fun b => test (lower b) || test (upper b) else .one test

def exact (style : Style) (b : UInt8) : Regular := style.one (· == b)

end Style

/-- A sign of an expression. -/
inductive Sign where
  | opening | closing | bar | star | plus | optional | brace
  | text (e : Regular) (length : Nat)

/-- The names of the classes of characters. -/
def classNames : List String := ["alpha", "digit", "alnum", "upper", "lower", "space", "blank", "punct",
  "xdigit", "cntrl", "print", "graph"]

/-- What stands between a sign and the same sign before a closing bracket, and what comes behind. -/
def namedPart (sign : UInt8) : Bytes → Except Fault (Bytes × Bytes)
  | [] => .error .openBrackets
  | b :: rest =>
    if b = sign ∧ rest.head? = some 0x5D then .ok ([], rest.drop 1)
    else (namedPart sign rest).map fun (name, behind) => (b :: name, behind)

/-- A character within brackets, by itself or by its name, and what comes behind. -/
def member (text : Bytes) : Except Fault (UInt8 × Bytes) :=
  match text with
  | [] => .error .openBrackets
  | 0x5B :: sign :: rest =>
    if sign = 0x2E ∨ sign = 0x3D then
      match namedPart sign rest with
      | .ok ([b], behind) => .ok (b, behind)
      | .ok _ => .error .unknownSymbol
      | .error fault => .error fault
    else .ok (0x5B, sign :: rest)
  | b :: rest => .ok (b, rest)

/-- Reads what stands in brackets up to the closing one, which does not close right behind the opening
one: for which characters the brackets stand, and what comes behind. -/
def inBrackets (isFirst : Bool) (test : UInt8 → Bool) : Nat → Bytes →
    Except Fault ((UInt8 → Bool) × Bytes)
  | 0, _ => .error .openBrackets
  | n + 1, text => do
    match text with
    | 0x5D :: rest =>
      if isFirst then ranged n 0x5D rest else .ok (test, rest)
    | 0x5B :: 0x3A :: rest =>
      let (name, behind) ← namedPart 0x3A rest
      if classNames.contains (wordText name) then
        inBrackets false (fun b => test b || Shape.isInClass name b) n behind
      else .error .unknownClass
    | _ =>
      let (b, rest) ← member text
      ranged n b rest
where
  /-- Goes on behind a character, which may begin a range. -/
  ranged (n : Nat) (first : UInt8) (rest : Bytes) : Except Fault ((UInt8 → Bool) × Bytes) :=
    match rest with
    | 0x2D :: 0x5D :: _ => inBrackets false (fun c => test c || c == first) n rest
    | 0x2D :: 0x5B :: 0x3A :: _ => .error .badRange
    | 0x2D :: behind => do
      let (last, behind) ← member behind
      if last < first then .error .badRange
      else inBrackets false (fun c => test c || (first ≤ c && c ≤ last)) n behind
    | _ => inBrackets false (fun c => test c || c == first) n rest

/-- The inside of brackets without the sign that turns them around, and whether it is there. -/
def turned (text : Bytes) : Bool × Bytes :=
  match text with
  | 0x5E :: inner => (true, inner)
  | _ => (false, text)

/-- How long the inside of brackets is, with the closing one. -/
def bracketLength (text : Bytes) : Except Fault Nat := do
  let inner := (turned text).2
  if inner.isEmpty then .error .emptyBrackets
  else
    let (_, behind) ← inBrackets true (fun _ => false) (inner.length + 1) inner
    .ok (text.length - behind.length)

/-- What the brackets at the front of a text mean. -/
def bracketAhead (style : Style) (text : Bytes) : Except Fault (Regular × Nat) := do
  let length ← bracketLength text
  let (isNegated, inner) := turned text
  let (test, _) ← inBrackets true (fun _ => false) (inner.length + 1) inner
  let written := (turned (text.take (length - 1))).2
  let isBareClass : Bool := decide (2 < written.length) && written.head? = some 0x3A &&
    written.getLast? = some 0x3A && !written.contains 0x5B && !written.contains 0x2D
  if isBareClass && style.isLenient then .error .bareClass
  else
    let single := match style.one test with
      | .one test => Regular.one fun b => test b != isNegated
      | other => other
    .ok (single, length)

/-- The sign at the front of a text and its length; a backslash makes signs plain, or the other way
around. -/
def signAhead (style : Style) (text : Bytes) : Except Fault (Option (Sign × Nat)) :=
  let special (b : UInt8) : Option Sign :=
    match Char.ofNat b.toNat with
    | '(' => some .opening
    | ')' => some .closing
    | '|' => some .bar
    | '+' => some .plus
    | '?' => some .optional
    | '{' => some .brace
    | _ => none
  match text with
  | [] => .ok none
  | [0x5C] => .error .trailingBackslash
  | 0x5C :: b :: _ =>
    let literal : Sign × Nat := (.text (style.exact b) 2, 2)
    match special b with
    | some sign => .ok (if style.isPlain then some literal else some (sign, 2))
    | none =>
      let word (isIn : Bool) : Regular := .one fun b => isWordByte b == isIn
      let blank (isIn : Bool) : Regular := .one fun b => (b == 0x20 || (0x09 ≤ b && b ≤ 0x0D)) == isIn
      let meant : Option Regular := match Char.ofNat b.toNat with
        | 'w' => some (word true)
        | 'W' => some (word false)
        | 's' => some (blank true)
        | 'S' => some (blank false)
        | 'b' => some (.border true true)
        | '<' => some (.border true false)
        | '>' => some (.border false true)
        | 'n' => some (style.exact lineBreak)
        | 't' => some (style.exact 0x09)
        | _ => if 0x31 ≤ b ∧ b ≤ 0x39 then some (.again (b.toNat - 48)) else none
      .ok (some (match meant with
        | some e => (.text e 2, 2)
        | none => literal))
  | b :: rest =>
    match special b with
    | some sign => .ok (some (if style.isPlain then (sign, 1) else (.text (style.exact b) 1, 1)))
    | none =>
      if b = 0x2A then .ok (some (.star, 1))
      else if b = 0x2E then .ok (some (.text (.one fun _ => true) 1, 1))
      else if b = 0x5B then
        (bracketAhead style rest).map fun (e, length) => some (.text e (length + 1), length + 1)
      else .ok (some (.text (style.exact b) 1, 1))

/-- How often something may come at most, where that is bounded. -/
def mostTimes : Nat := 32767

/-- The bounds between braces, and what comes behind them. -/
def boundsAhead (style : Style) (text : Bytes) : Except Fault (Nat × Option Nat × Bytes) :=
  let least := text.takeWhile isDigit
  let rest := text.drop least.length
  let (most, rest, hasComma) : Option Nat × Bytes × Bool := match rest with
    | 0x2C :: rest =>
      let digits := rest.takeWhile isDigit
      (numeral? digits, rest.drop digits.length, true)
    | _ => (numeral? least, rest, false)
  let hasEnd : Bool := if style.isPlain then rest.contains 0x7D
    else (List.range rest.length).any fun i => rest[i]? = some 0x5C && rest[i + 1]? = some 0x7D
  let behind : Option Bytes := match rest with
    | 0x5C :: 0x7D :: rest => if style.isPlain then none else some rest
    | 0x7D :: rest => if style.isPlain then some rest else none
    | _ => none
  let isReversed : Bool := match numeral? least, most with
    | some least, some most => decide (most < least)
    | _, _ => false
  match behind with
  | none => .error (if hasEnd then .oddBounds else .openBounds)
  | some rest =>
    if (least.isEmpty && !hasComma) || isReversed then .error .badBounds
    else
      let least := (numeral? least).getD 0
      if mostTimes < max least (most.getD 0) then .error .tooBig else .ok (least, most, rest)

/-- What reading gives: an expression, the count of groups, and what comes behind. -/
abbrev Outcome := Except Fault (Regular × Nat × Bytes)

mutual

/-- Reads alternatives. -/
def alternatives (style : Style) : Nat → Nat → Bytes → Outcome
  | 0, _, _ => .error .tooBig
  | n + 1, groups, text => do
    let (first, groups, rest) ← sequence style n true groups text
    match ← signAhead style rest with
    | some (.bar, length) =>
      let (others, groups, rest) ← alternatives style n groups (rest.drop length)
      .ok (.either first others, groups, rest)
    | _ => .ok (first, groups, rest)

/-- Reads expressions that follow each other; a caret at their start and a dollar sign at their end mean
the start and the end of the text. -/
def sequence (style : Style) : Nat → Bool → Nat → Bytes → Outcome
  | 0, _, _, _ => .error .tooBig
  | n + 1, isFirst, groups, text => do
    match text with
    | [] => .ok (.empty, groups, [])
    | b :: rest =>
      let isEnd : Bool := match signAhead style rest with
        | .ok none => true
        | .ok (some (.bar, _)) | .ok (some (.closing, _)) => true
        | _ => false
      if b = 0x5E ∧ (isFirst ∨ style.isPlain) then
        let (others, groups, rest) ← sequence style n isFirst groups rest
        .ok (.both .begins others, groups, rest)
      else if b = 0x24 ∧ (isEnd ∨ style.isPlain) then
        let (others, groups, rest) ← sequence style n false groups rest
        .ok (.both .ends others, groups, rest)
      else
        match ← signAhead style text with
        | none => .ok (.empty, groups, [])
        | some (.bar, _) => .ok (.empty, groups, text)
        | some (.closing, _) => .ok (.empty, groups, text)
        | some (.opening, length) =>
          let number := groups + 1
          let (inner, groups, rest) ← alternatives style n number (text.drop length)
          match ← signAhead style rest with
          | some (.closing, length) =>
            followed style n groups (.group number inner) (rest.drop length)
          | _ => .error .openGroup
        | some (.text (.again number) length, _) =>
          if groups < number then .error .badReference
          else followed style n groups (.again number) (text.drop length)
        | some (.text e length, _) => followed style n groups e (text.drop length)
        | some (.brace, length) =>
          if !style.isLenient then .error .nothingToRepeat
          else
            match style.isPlain, boundsAhead style (text.drop length) with
            | true, .ok (_, _, rest) => followed style n groups .empty rest
            | true, .error .badBounds => .error .badBounds
            | _, _ => followed style n groups (style.exact 0x7B) (text.drop length)
        | some (_, length) =>
          let sign := text[length - 1]?.getD b
          if !style.isPlain then followed style n groups (style.exact sign) (text.drop length)
          else if style.isLenient then followed style n groups .empty (text.drop length)
          else .error .nothingToRepeat

/-- Reads how often an expression may come, and what follows it. -/
def followed (style : Style) : Nat → Nat → Regular → Bytes → Outcome
  | 0, _, _, _ => .error .tooBig
  | n + 1, groups, e, text => do
    match ← signAhead style text with
    | some (.star, length) => followed style n groups (.repeated 0 none e) (text.drop length)
    | some (.plus, length) => followed style n groups (.repeated 1 none e) (text.drop length)
    | some (.optional, length) => followed style n groups (.repeated 0 (some 1) e) (text.drop length)
    | some (.brace, length) =>
      match boundsAhead style (text.drop length) with
      | .ok (least, most, rest) => followed style n groups (.repeated least most e) rest
      | .error fault =>
        if style.isLenient && style.isPlain && (fault = .openBounds || fault = .oddBounds) then
          let (others, groups, rest) ← followed style n groups (style.exact 0x7B) (text.drop length)
          .ok (.both e others, groups, rest)
        else .error fault
    | _ =>
      let (others, groups, rest) ← sequence style n false groups text
      .ok (.both e others, groups, rest)

end

/-- The expression that a text is, where so many closing signs may stand for themselves. -/
def ofTextWithin (style : Style) : Nat → Bytes → Except Fault Regular
  | 0, _ => .error .loneClosing
  | n + 1, text => do
    let (e, _, rest) ← alternatives style (6 * text.length + 12) 0 text
    if rest.isEmpty then .ok e
    else if style.isLenient && style.isPlain then
      ofTextWithin style n (text.take (text.length - rest.length) ++ 0x5C :: rest)
    else .error .loneClosing

/-- The expression that a text is. -/
def ofText (style : Style) (text : Bytes) : Except Fault Regular :=
  ofTextWithin style (text.length + 1) text

end Regular

end ClockWarden.Rehearsal
