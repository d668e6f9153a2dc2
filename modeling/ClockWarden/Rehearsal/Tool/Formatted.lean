import ClockWarden.Rehearsal.Tool.Fraction
import ClockWarden.Shell.Arithmetic

/-! Texts that are written after a format, and texts with characters behind backslashes. -/

namespace ClockWarden.Rehearsal

open Host Shell

/-- The octal digits at the front of a text, up to so many. -/
def octalAhead (limit : Nat) (text : Bytes) : Bytes :=
  (text.take limit).takeWhile fun b => 0x30 ≤ b && b ≤ 0x37

def octalValue (digits : Bytes) : Nat := digits.foldl (fun n b => 8 * n + (b.toNat - 48)) 0

/-- The character that stands behind a backslash, by its letter. -/
def escapeOf? (letter : UInt8) : Option UInt8 :=
  [(0x61, 0x07), (0x62, 0x08), (0x65, 0x1B), (0x66, 0x0C), (0x6E, 0x0A), (0x72, 0x0D), (0x74, 0x09), (0x76, 0x0B),
    (0x5C, 0x5C)].lookup letter

/-- Puts the characters that stand behind backslashes; tells whether the text was cut short by `\c`.
With `zeroLeads`, octal digits have to follow a zero. Every step takes a character. -/
def unescaped (zeroLeads : Bool) : Nat → Bytes → Bytes × Bool
  | 0, text => (text, false)
  | n + 1, text =>
    match text with
    | [] => ([], false)
    | 0x5C :: letter :: rest =>
      let after (b : UInt8) (rest : Bytes) : Bytes × Bool :=
        let (more, isCut) := unescaped zeroLeads n rest
        (b :: more, isCut)
      match escapeOf? letter with
      | some b => after b rest
      | none =>
        if letter = 0x63 then ([], true)
        else if letter = 0x30 ∧ zeroLeads then
          let digits := octalAhead 3 rest
          after (UInt8.ofNat (octalValue digits)) (rest.drop digits.length)
        else if 0x30 ≤ letter ∧ letter ≤ 0x37 then
          let digits := octalAhead 3 (letter :: rest)
          after (UInt8.ofNat (octalValue digits)) ((letter :: rest).drop digits.length)
        else after 0x5C (letter :: rest)
    | b :: rest =>
      let (more, isCut) := unescaped zeroLeads n rest
      (b :: more, isCut)

/-- What a shell says when it is asked to repeat something. -/
def echoed (arguments : List Bytes) : Bytes :=
  let (words, ending) : List Bytes × Bytes := match arguments with
    | first :: rest => if first = ascii "-n" then (rest, []) else (first :: rest, [lineBreak])
    | [] => ([], [lineBreak])
  let text := Session.joined words
  let (text, isCut) := unescaped true (text.length + 1) text
  if isCut then text else text ++ ending

/-- What the program that repeats something says; it looks behind backslashes only if it is told. -/
def echoedPlainly (arguments : List Bytes) : Bytes :=
  let isOption (text : Bytes) : Bool :=
    match text with
    | 0x2D :: letters => letters ≠ [] && letters.all fun b => b ∈ [0x6E, 0x65, 0x45]
    | _ => false
  let options : Bytes := (arguments.takeWhile isOption).flatMap fun text => text.drop 1
  let text := Session.joined (arguments.dropWhile isOption)
  let ending : Bytes := if options.contains 0x6E then [] else [lineBreak]
  match (options.filter (· ≠ 0x6E)).getLast? with
  | some 0x65 =>
    let (text, isCut) := unescaped true (text.length + 1) text
    if isCut then text else text ++ ending
  | _ => text ++ ending

/-- How a value is to be written. -/
structure Layout where
  isLeft : Bool := false
  isZeroed : Bool := false
  sign : Option UInt8 := none
  isAlternate : Bool := false
  width : Nat := 0
  precision : Option Nat := none

namespace Layout

/-- Fills a text up to the width. -/
def fill (l : Layout) (text : Bytes) : Bytes :=
  let blanks := List.replicate (l.width - text.length) 0x20
  if l.isLeft then text ++ blanks else blanks ++ text

/-- A number: a sign or a mark, and digits. -/
def number (l : Layout) (mark digits : Bytes) : Bytes :=
  let digits := match l.precision with
    | some n => List.replicate (n - digits.length) 0x30 ++ digits
    | none => digits
  if l.isZeroed && !l.isLeft && l.precision.isNone then
    mark ++ List.replicate (l.width - mark.length - digits.length) 0x30 ++ digits
  else l.fill (mark ++ digits)

end Layout

/-- The digits of a number. -/
def digitsIn (base : Nat) (isUpper : Bool) (n : Nat) : Bytes :=
  let digits := String.ofList (Nat.toDigits base n)
  ascii (if isUpper then digits.toUpper else digits)

/-- What is wrong with a format or with an argument for it. -/
inductive FormatFault where
  | noNumber (argument : Bytes)
  | trailing (argument : Bytes)
  | tooGreat (argument : Bytes)
  | directive (text : Bytes)
  /-- A format that ends within a directive. -/
  | cutShort (text : Bytes)
  | excess (argument : Bytes)

namespace FormatFault

/-- What a shell says about it. -/
def inShell : FormatFault → Bytes
  | noNumber argument => argument ++ ascii ": expected numeric value"
  | trailing argument => argument ++ ascii ": not completely converted"
  | tooGreat argument => argument ++ ascii ": Numerical result out of range"
  | directive text => text ++ ascii ": invalid directive"
  | cutShort _ => ascii "missing format character"
  | excess argument => argument

/-- What the program says about it. -/
def inProgram : FormatFault → Bytes
  | noNumber argument => quoted argument ++ ascii ": expected a numeric value"
  | trailing argument => quoted argument ++ ascii ": value not completely converted"
  | tooGreat argument => quoted argument ++ ascii ": Numerical result out of range"
  | directive text | cutShort text => text ++ ascii ": invalid conversion specification"
  | excess argument =>
    ascii "warning: ignoring excess arguments, starting with " ++ quoted argument

/-- Whether it makes a failure of the whole. -/
def isSerious : FormatFault → Bool
  | excess _ => false
  | _ => true

end FormatFault

/-- The number that an argument of a format is, between bounds, and what is wrong with it. -/
def formatNumber (least greatest : Int) (argument : Bytes) : Int × Option FormatFault :=
  match argument with
  | [] => (0, none)
  | first :: rest =>
    if (first = 0x27 ∨ first = 0x22) ∧ !rest.isEmpty then
      (((rest.head?).map fun b => Int.ofNat b.toNat).getD 0, none)
    else
      let text := argument.dropWhile Expression.isBlank
      let (isNegative, digits) := match text with
        | 0x2D :: digits => (true, digits)
        | 0x2B :: digits => (false, digits)
        | digits => (false, digits)
      match digits with
      | b :: _ =>
        if isDigit b then
          let (n, behind) := Expression.numberAhead digits
          let n : Int := if isNegative then -n else n
          if greatest < n then (greatest, some (.tooGreat argument))
          else if n < least then (least, some (.tooGreat argument))
          else (n, if behind = [] then none else some (.trailing argument))
        else (0, some (.noNumber argument))
      | [] => (0, some (.noNumber argument))

/-- A text that is being written after a format: what has been written, the arguments left, whether any
was used, what is wrong and how much had been written then, and whether it has been cut short. -/
structure Writing where
  written : Bytes := []
  left : List Bytes := []
  hasUsed : Bool := false
  faults : List (Nat × FormatFault) := []
  isCut : Bool := false
  /-- Whether a shell writes it. A shell knows fewer letters and less exact numbers. -/
  isShell : Bool := true

namespace Writing

def add (w : Writing) (text : Bytes) : Writing := { w with written := w.written ++ text }

def fault (w : Writing) (fault : FormatFault) : Writing :=
  { w with faults := w.faults ++ [(w.written.length, fault)] }

/-- Takes the next argument; there is an empty one behind the last. -/
def next (w : Writing) : Bytes × Writing :=
  ((w.left.head?).getD [], { w with left := w.left.drop 1, hasUsed := true })

/-- Takes the next argument as a number between bounds. -/
def nextNumberIn (w : Writing) (least greatest : Int) : Int × Writing :=
  let (argument, w) := w.next
  let (n, fault) := formatNumber least greatest argument
  (n, (fault.map w.fault).getD w)

/-- Takes the next argument as a number with a sign, or as one that wraps around. -/
def nextNumber (w : Writing) : Int × Writing :=
  w.nextNumberIn (-(Expression.greatest : Int) - 1) Expression.greatest

def nextUnsigned (w : Writing) : Nat × Writing :=
  let (n, w) := w.nextNumberIn (-(Expression.modulus : Int) + 1) (Expression.modulus - 1)
  ((n % (Expression.modulus : Int)).toNat, w)

/-- Reads a count in a format, which may be taken from the arguments. -/
def count (w : Writing) (format : Bytes) : Option Int × Bytes × Writing :=
  match format with
  | 0x2A :: rest =>
    let (n, w) := w.nextNumber
    (some n, rest, w)
  | _ =>
    let digits := format.takeWhile isDigit
    ((numeral? digits).map Int.ofNat, format.drop digits.length, w)

/-- Writes a value in the manner of a letter; nothing where there is no such manner. -/
def value? (w : Writing) (l : Layout) (letter : UInt8) : Option Writing :=
  let mark (n : Int) : Bytes :=
    if n < 0 then [0x2D] else (l.sign.map fun b => [b]).getD []
  match Char.ofNat letter.toNat with
  | 's' =>
    let (text, w) := w.next
    some (w.add (l.fill (match l.precision with
      | some n => text.take n
      | none => text)))
  | 'b' =>
    if !w.isShell && decide (l.width ≠ 0) then none
    else
      let (text, w) := w.next
      let (text, isCut) := unescaped true (text.length + 1) text
      some { w.add (l.fill (match l.precision with
        | some n => text.take n
        | none => text)) with isCut }
  | 'c' =>
    let (text, w) := w.next
    some (w.add (l.fill (if text.isEmpty then [0] else text.take 1)))
  | 'q' =>
    if w.isShell then none
    else
      let (text, w) := w.next
      some (w.add (l.fill (quotedIfOdd text)))
  | 'd' | 'i' =>
    let (n, w) := w.nextNumber
    some (w.add (l.number (mark n) (digitsIn 10 false n.natAbs)))
  | 'u' =>
    let (n, w) := w.nextUnsigned
    some (w.add (l.number [] (digitsIn 10 false n)))
  | 'o' =>
    let (n, w) := w.nextUnsigned
    let digits := digitsIn 8 false n
    some (w.add (l.number [] (if l.isAlternate ∧ digits.head? ≠ some 0x30 then 0x30 :: digits else digits)))
  | 'x' =>
    let (n, w) := w.nextUnsigned
    some (w.add (l.number (if l.isAlternate ∧ n ≠ 0 then ascii "0x" else []) (digitsIn 16 false n)))
  | 'X' =>
    let (n, w) := w.nextUnsigned
    some (w.add (l.number (if l.isAlternate ∧ n ≠ 0 then ascii "0X" else []) (digitsIn 16 true n)))
  | 'f' | 'F' | 'e' | 'E' | 'g' | 'G' =>
    let (text, w) := w.next
    let blankless := text.dropWhile Expression.isBlank
    let (x, w) : Fraction × Writing := match Fraction.ahead? blankless with
      | some (x, rest) => (x, if rest.isEmpty then w else w.fault (.trailing text))
      | none => (⟨false, 0, 0⟩, if text.isEmpty then w else w.fault (.noNumber text))
    let (num, den) := x.quotient (if w.isShell then 53 else 64)
    let places := l.precision.getD 6
    let shown := if letter ∈ [0x66, 0x46] then Fraction.fixed places num den
      else if letter ∈ [0x65, 0x45] then Fraction.scientific places num den
      else Fraction.general l.isAlternate places num den
    let shown := if letter ∈ [0x45, 0x47] then ascii (wordText shown).toUpper else shown
    some (w.add ({ l with precision := none }.number (mark (if x.isNegative then -1 else 1)) shown))
  | _ => none

/-- The marks in front of the width. -/
def flags (l : Layout) : Bytes → Layout × Bytes
  | [] => (l, [])
  | b :: rest =>
    match Char.ofNat b.toNat with
    | '-' => flags { l with isLeft := true } rest
    | '0' => flags { l with isZeroed := true } rest
    | '+' => flags { l with sign := some 0x2B } rest
    | ' ' => flags { l with sign := some (l.sign.getD 0x20) } rest
    | '#' => flags { l with isAlternate := true } rest
    | _ => (l, b :: rest)

/-- Writes after a format once. Each step takes a character of it. -/
def once : Nat → Bytes → Writing → Writing
  | 0, _, w => w
  | n + 1, format, w =>
    if w.isCut then w
    else
      match format with
      | [] => w
      | 0x25 :: 0x25 :: rest => once n rest (w.add [0x25])
      | 0x25 :: directive =>
        let (layout, rest) := flags {} directive
        let (width, rest, w) := w.count rest
        let width := width.getD 0
        let layout := { layout with isLeft := layout.isLeft || decide (width < 0), width := width.natAbs }
        let (precision, rest, w) : Option Nat × Bytes × Writing := match rest with
          | 0x2E :: rest =>
            let (precision, rest, w) := w.count rest
            (some (precision.getD 0).toNat, rest, w)
          | _ => (none, rest, w)
        let isLength (b : UInt8) : Bool := b ∈ [0x68, 0x6C, 0x4C, 0x6A, 0x7A, 0x74]
        let rest := if w.isShell then rest else rest.dropWhile isLength
        let shown (behind : Bytes) : Bytes := 0x25 :: directive.take (directive.length - behind.length)
        match rest with
        | [] => { w.fault (.cutShort (shown [])) with isCut := true }
        | letter :: rest =>
          match w.value? { layout with precision } letter with
          | some w => once n rest w
          | none =>
            { w.fault (.directive (if w.isShell then [0x25, letter] else shown rest)) with isCut := true }
      | 0x5C :: letter :: rest =>
        match escapeOf? letter with
        | some b => once n rest (w.add [b])
        | none =>
          if 0x30 ≤ letter ∧ letter ≤ 0x37 then
            let digits := octalAhead 3 (letter :: rest)
            once n ((letter :: rest).drop digits.length) (w.add [UInt8.ofNat (octalValue digits)])
          else if w.isShell then once n (letter :: rest) (w.add [0x5C])
          else if letter = 0x63 then { w with isCut := true }
          else if letter = 0x78 then
            let digits := (rest.take 2).takeWhile fun b => (Expression.hexValue? b).isSome
            once n (rest.drop digits.length) (w.add [UInt8.ofNat (Expression.digitsValue 16 digits)])
          else once n rest (w.add (if letter = 0x22 then [letter] else [0x5C, letter]))
      | b :: rest => once n rest (w.add [b])

/-- A format is used again for as long as there are arguments. -/
def again (format : Bytes) : Nat → Writing → Writing
  | 0, w => w
  | n + 1, w =>
    let w := once (format.length + 1) format { w with hasUsed := false }
    if w.isCut || w.left.isEmpty || !w.hasUsed then w else again format n w

end Writing

/-- What comes of writing after a format. -/
def formatted (isShell : Bool) (format : Bytes) (arguments : List Bytes) : Writing :=
  let w := Writing.again format (arguments.length + 1) { left := arguments, isShell }
  match w.left with
  | extra :: _ => if isShell || w.isCut then w else w.fault (.excess extra)
  | [] => w

/-- What the program says that writes after a format: what is wrong is said where it comes up. -/
def utterances (title : Bytes) (w : Writing) : List Utterance :=
  let (said, n) := w.faults.foldl (fun (said, n) (m, fault) =>
    (said ++ [.shown ((w.written.drop n).take (m - n)),
      .complained (title ++ ascii ": " ++ fault.inProgram ++ [lineBreak])], m)) (([] : List Utterance), 0)
  said ++ [.shown (w.written.drop n)]

end ClockWarden.Rehearsal
