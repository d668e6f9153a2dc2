import ClockWarden.Shell.Command

/-! How the commands of a script are read. A script is read line by line: a line that cannot be read
spoils only what comes behind it. -/

namespace ClockWarden.Shell

/-- What is still to be read of a script, and the line on which that begins. Texts that were taken out
of it behind the line at hand count as lines, too. -/
structure Source where
  rest : Bytes
  line : Nat := 1
  hidden : Nat := 0
  /-- The words that stand for texts where a command is expected. -/
  aliases : List (Bytes × Bytes) := []
  /-- Words that have been replaced, each with how much of the script is left behind its text; within
  that it is not replaced again. -/
  replaced : List (Bytes × Nat) := []

/-- Why a script cannot be read. -/
structure SyntaxFault where
  line : Nat
  message : String

namespace Source

/-- The next character. -/
def peek? (s : Source) : Option UInt8 := s.rest.head?

/-- Moves on by one character. -/
def skip (s : Source) : Source :=
  match s.rest with
  | [] => s
  | b :: rest =>
    if b = 0x0A then { s with rest, line := s.line + 1 + s.hidden, hidden := 0 } else { s with rest }

/-- Moves on by some characters. -/
def skipMany : Nat → Source → Source
  | 0, s => s
  | n + 1, s => skipMany n s.skip

/-- Whether a text comes next. -/
def begins (s : Source) (text : String) : Bool := (Utf8.encode text).isPrefixOf s.rest

end Source

namespace Reader

/-- What reading gives: a value and what is still to be read. -/
abbrev Outcome := Except SyntaxFault

def fail {α : Type} (s : Source) (message : String) : Outcome α :=
  .error ⟨s.line, message⟩

/-- A sign between words. -/
inductive Sign where
  | semicolon
  | doubleSemicolon
  | ampersand
  | and
  | or
  | bar
  | lineBreak
  | openParenthesis
  | closeParenthesis
deriving DecidableEq

/-- The name of a sign in a complaint. -/
def Sign.name : Sign → String
  | .semicolon => "\";\""
  | .doubleSemicolon => "\";;\""
  | .ampersand => "\"&\""
  | .and => "\"&&\""
  | .or => "\"||\""
  | .bar => "\"|\""
  | .lineBreak => "newline"
  | .openParenthesis => "\"(\""
  | .closeParenthesis => "\")\""

/-- What stands next in a script, short of a word. -/
inductive Ahead where
  | nothing
  | sign (sign : Sign) (length : Nat)
  /-- An arrow, the descriptor in front of it and its length; a text may lose the tabs at its front. -/
  | arrow (descriptor : Option Nat) (arrow : Arrow) (isIndented : Bool) (length : Nat)
  | word

/-- The arrow that a script begins with. -/
def arrowAhead (descriptor : Option Nat) (length : Nat) (text : Bytes) : Option Ahead :=
  match text with
  | 0x3C :: 0x3C :: 0x2D :: _ => some (.arrow descriptor .text true (length + 3))
  | 0x3C :: 0x3C :: _ => some (.arrow descriptor .text false (length + 2))
  | 0x3C :: 0x26 :: _ => some (.arrow (some (descriptor.getD 0)) .same false (length + 2))
  | 0x3C :: 0x3E :: _ => some (.arrow descriptor .both false (length + 2))
  | 0x3C :: _ => some (.arrow descriptor .from false (length + 1))
  | 0x3E :: 0x3E :: _ => some (.arrow descriptor .onto false (length + 2))
  | 0x3E :: 0x26 :: _ => some (.arrow (some (descriptor.getD 1)) .same false (length + 2))
  | 0x3E :: 0x7C :: _ => some (.arrow descriptor .over false (length + 2))
  | 0x3E :: _ => some (.arrow descriptor .into false (length + 1))
  | _ => none

/-- What a script begins with. -/
def ahead (s : Source) : Ahead :=
  match s.rest with
  | [] => .nothing
  | 0x0A :: _ => .sign .lineBreak 1
  | 0x3B :: 0x3B :: _ => .sign .doubleSemicolon 2
  | 0x3B :: _ => .sign .semicolon 1
  | 0x26 :: 0x26 :: _ => .sign .and 2
  | 0x26 :: _ => .sign .ampersand 1
  | 0x7C :: 0x7C :: _ => .sign .or 2
  | 0x7C :: _ => .sign .bar 1
  | 0x28 :: _ => .sign .openParenthesis 1
  | 0x29 :: _ => .sign .closeParenthesis 1
  | b :: rest =>
    let numbered : Option Ahead :=
      if isDigit b then arrowAhead (some (b.toNat - 48)) 1 rest else none
    ((arrowAhead none 0 (b :: rest)).orElse fun _ => numbered).getD .word

/-- Skips a comment up to the end of its line. -/
def skipComment (s : Source) : Source :=
  { s with rest := s.rest.dropWhile (· ≠ 0x0A) }

/-- Skips blanks, joined lines and comments. -/
def skipBlanks : Nat → Source → Source
  | 0, s => s
  | n + 1, s =>
    match s.rest with
    | 0x20 :: _ => skipBlanks n s.skip
    | 0x09 :: _ => skipBlanks n s.skip
    | 0x5C :: 0x0A :: _ => skipBlanks n s.skip.skip
    | 0x23 :: _ => skipComment s
    | _ => s

/-- Skips what does not count in front of a token. -/
def gap (s : Source) : Source := skipBlanks (s.rest.length + 1) s

/-- Skips blanks and line breaks. -/
def lineGap : Nat → Source → Source
  | 0, s => s
  | n + 1, s =>
    let s := gap s
    if s.peek? = some 0x0A then lineGap n s.skip else s

def gaps (s : Source) : Source := lineGap (s.rest.length + 1) s

/-- Whether a character ends an unquoted word. -/
def endsWord (b : UInt8) : Bool :=
  b ∈ [0x20, 0x09, 0x0A, 0x3B, 0x26, 0x7C, 0x3C, 0x3E, 0x28, 0x29]

/-- Adds a character to pieces that stand last first. -/
def put (pieces : List Piece) (b : UInt8) (isQuoted : Bool) : List Piece :=
  match pieces with
  | .literal text quoted :: others =>
    if quoted = isQuoted then .literal (text ++ [b]) quoted :: others
    else .literal [b] isQuoted :: pieces
  | _ => .literal [b] isQuoted :: pieces

/-- The words that begin or end something when a command is expected. -/
def keywords : List String := ["!", "\x7b", "\x7d", "case", "do", "done", "elif", "else", "esac", "fi",
  "for", "if", "in", "then", "until", "while"]

/-- The keyword that comes next, where a command is expected. -/
def keyword? (s : Source) : Option String :=
  let text := s.rest.takeWhile fun b => !endsWord b
  keywords.find? fun keyword => Utf8.encode keyword = text

/-- Replaces the word that comes next, where it stands for a text. -/
def replacement? (s : Source) : Option Source :=
  let text := s.rest.takeWhile fun b => !endsWord b
  match s.aliases.lookup text with
  | none => none
  | some value =>
    let rest := s.rest.drop text.length
    if s.replaced.any fun entry => entry.1 = text && decide (entry.2 < s.rest.length) then none
    else some { s with rest := value ++ rest, replaced := (text, rest.length) :: s.replaced }

/-- Words that end a list of commands. -/
def closers : List String := ["then", "elif", "else", "fi", "do", "done", "esac", "\x7d"]

/-- The name in a complaint of what comes next. -/
def nameAhead (s : Source) : String :=
  match ahead s with
  | .nothing => "end of file"
  | .sign sign _ => sign.name
  | .arrow .. => "redirection"
  | .word =>
    match keyword? s with
    | some keyword => "\"" ++ keyword ++ "\""
    | none => "word"

/-- Fails at what comes next; where that is the end of a line, the next line counts. -/
def failAhead {α : Type} (s : Source) (message : String) : Outcome α :=
  match ahead s with
  | .sign .lineBreak _ => fail s.skip message
  | _ => fail s message

/-- The complaint about what comes next. -/
def unexpected {α : Type} (s : Source) (expected : Option String) : Outcome α :=
  failAhead s ("Syntax error: " ++ nameAhead s ++ " unexpected" ++
    match expected with
    | some name => " (expecting " ++ (if name = "word" then name else "\"" ++ name ++ "\"") ++ ")"
    | none => "")

/-- Takes a keyword. -/
def expect (keyword : String) (s : Source) : Outcome Source :=
  let s := gaps s
  if keyword? s = some keyword then .ok (s.skipMany keyword.length) else unexpected s (some keyword)

/-- Whether a list of commands ends here. -/
def endsList (s : Source) : Bool :=
  match ahead s with
  | .nothing => true
  | .sign sign _ => sign = .closeParenthesis || sign = .doubleSemicolon
  | .arrow .. => false
  | .word =>
    match keyword? s with
    | some keyword => closers.contains keyword
    | none => false

/-- The name and the value of an assignment. -/
def assignment? : Word → Option (Bytes × Word)
  | .literal text false :: others =>
    let name := text.takeWhile (· ≠ 0x3D)
    match text.dropWhile (· ≠ 0x3D) with
    | [] => none
    | _ :: value => if isName name then some (name, .literal value false :: others) else none
  | _ => none

/-- The text of a word without its quotes, and whether it has any. -/
def rawText (w : Word) : Bytes × Bool :=
  w.foldl (fun (text, isQuoted) piece =>
    match piece with
    | .literal more quoted => (text ++ more, isQuoted || quoted)
    | .parameter name _ _ quoted => (text ++ 0x24 :: name, isQuoted || quoted)
    | _ => (text, isQuoted)) ([], false)

/-- The text up to the end of the line, quotes taken into account. -/
def toLineEnd (quote : Option UInt8) : Bytes → Bytes × Bytes
  | [] => ([], [])
  | b :: rest =>
    if b = 0x0A ∧ quote = none then ([], b :: rest)
    else
      let quote := match quote with
        | some q => if b = q then none else some q
        | none => if b = 0x27 ∨ b = 0x22 then some b else none
      let (line, behind) := toLineEnd quote rest
      (b :: line, behind)

/-- The lines of a text up to the one that ends it, how many there are with that, and what comes
behind them. -/
def textLines (isIndented : Bool) (mark : Bytes) : Nat → Bytes → Bytes × Nat × Bytes
  | 0, text => ([], 0, text)
  | n + 1, text =>
    if text.isEmpty then ([], 0, [])
    else
      let line := text.takeWhile (· ≠ 0x0A)
      let behind := text.drop line.length
      let line := if isIndented then line.dropWhile (· = 0x09) else line
      if line = mark then ([], 1, behind.drop 1)
      else
        let (lines, count, rest) := textLines isIndented mark n (behind.drop 1)
        (line ++ behind.take 1 ++ lines, count + 1, rest)

/-- Takes the text that begins behind the line at hand out of a script. -/
def takeText (isIndented : Bool) (mark : Bytes) (s : Source) : Bytes × Source :=
  let (line, behind) := toLineEnd none s.rest
  match behind with
  | [] => ([], s)
  | b :: behind =>
    let (text, count, rest) := textLines isIndented mark (behind.length + 1) behind
    (text, { s with rest := line ++ b :: rest, hidden := s.hidden + count })

/-- The text between backquotes; a backslash lets only some characters stand for themselves. -/
def backquoted (inQuotes : Bool) : Bytes → Option (Bytes × Nat)
  | [] => none
  | 0x60 :: _ => some ([], 1)
  | 0x5C :: b :: rest =>
    let isTaken : Bool := b ∈ [0x5C, 0x60, 0x24] || (inQuotes && b = 0x22)
    (backquoted inQuotes rest).map fun (text, n) =>
      (if b = 0x0A then text else if isTaken then b :: text else 0x5C :: b :: text, n + 2)
  | b :: rest => (backquoted inQuotes rest).map fun (text, n) => (b :: text, n + 1)

/-- The name of a parameter behind a dollar sign without a brace. -/
def bareName? : Bytes → Option Bytes
  | [] => none
  | b :: rest =>
    if isNameStart b then some (b :: rest.takeWhile isNameRest)
    else if isDigit b ∨ b ∈ [0x2A, 0x40, 0x23, 0x3F, 0x2D, 0x24, 0x21] then some [b]
    else none

/-- The name of a parameter behind a brace, and what comes behind it. -/
def bracedName (text : Bytes) : Option (Bytes × Bytes) :=
  match text with
  | [] => none
  | b :: rest =>
    if isNameStart b then
      let name := b :: rest.takeWhile isNameRest
      some (name, text.drop name.length)
    else if isDigit b then
      let name := b :: rest.takeWhile isDigit
      some (name, text.drop name.length)
    else if b ∈ [0x2A, 0x40, 0x23, 0x3F, 0x2D, 0x24, 0x21] then some ([b], rest)
    else none

/-- The use of a parameter that its name is followed by, and the length of the sign for it. -/
def useOf (text : Bytes) : Use × Nat :=
  match text with
  | 0x25 :: 0x25 :: _ => (.withoutSuffix true, 2)
  | 0x25 :: _ => (.withoutSuffix false, 1)
  | 0x23 :: 0x23 :: _ => (.withoutPrefix true, 2)
  | 0x23 :: _ => (.withoutPrefix false, 1)
  | 0x3A :: 0x2D :: _ => (.otherwise true, 2)
  | 0x3A :: 0x2B :: _ => (.instead true, 2)
  | 0x3A :: 0x3F :: _ => (.complain true, 2)
  | 0x3A :: 0x3D :: _ => (.assign true, 2)
  | 0x2D :: _ => (.otherwise false, 1)
  | 0x2B :: _ => (.instead false, 1)
  | 0x3F :: _ => (.complain false, 1)
  | 0x3D :: _ => (.assign false, 1)
  | _ => (.bad, 0)

/-- A parameter behind a brace, up to the argument of its use: name, use, and what comes behind. -/
def bracedHead (text : Bytes) : Bytes × Use × Bytes :=
  let plainHead (text : Bytes) : Bytes × Use × Bytes :=
    match bracedName text with
    | none => ([], .bad, text)
    | some (name, rest) =>
      if rest.head? = some 0x7D then (name, .plain, rest)
      else
        let (use, length) := useOf rest
        (name, use, rest.drop length)
  match text with
  | 0x23 :: rest =>
    match bracedName rest with
    | some (name, 0x7D :: behind) => (name, .length, 0x7D :: behind)
    | _ => plainHead text
  | _ => plainHead text

/-- The complaint about a parameter whose brace is not closed, which is about the line it begins on. -/
def missingBrace : String := "Syntax error: Missing '\x7d'"

/-- Whether the argument of a use is read without regard to the quotes around it. -/
def isPatternUse : Use → Bool
  | .withoutPrefix _ | .withoutSuffix _ => true
  | _ => false

mutual

/-- Reads an unquoted word; its pieces so far stand last first. -/
def word : Nat → List Piece → Source → Outcome (Word × Source)
  | 0, _, s => fail s "Syntax error: too long"
  | n + 1, pieces, s =>
    match s.rest with
    | [] => .ok (pieces.reverse, s)
    | b :: rest =>
      if endsWord b then .ok (pieces.reverse, s)
      else if b = 0x5C then
        match rest with
        | [] => .ok ((put pieces b true).reverse, s.skip)
        | c :: _ =>
          if c = 0x0A then word n pieces s.skip.skip else word n (put pieces c true) s.skip.skip
      else if b = 0x27 then do
        let (pieces, s) ← singleQuoted n pieces s.skip
        word n pieces s
      else if b = 0x22 then do
        let begins := s.line
        let (pieces, s) ← doubleQuoted n begins pieces true s.skip
        word n pieces s
      else if b = 0x60 ∨ b = 0x24 then do
        let (pieces, s) ← dollar n pieces false s
        word n pieces s
      else word n (put pieces b false) s.skip

/-- Reads what stands between single quotes. -/
def singleQuoted : Nat → List Piece → Source → Outcome ((List Piece) × Source)
  | 0, _, s => fail s "Syntax error: too long"
  | n + 1, pieces, s =>
    let text := s.rest.takeWhile (· ≠ 0x27)
    if text.length = s.rest.length then
      fail (Source.skipMany text.length s) "Syntax error: Unterminated quoted string"
    else
      have _ := n
      .ok (.literal text true :: pieces, Source.skipMany (text.length + 1) s)

/-- Reads what stands between double quotes; `isEmpty` while nothing has come. -/
def doubleQuoted : Nat → Nat → List Piece → Bool → Source → Outcome ((List Piece) × Source)
  | 0, _, _, _, s => fail s "Syntax error: too long"
  | n + 1, begins, pieces, isEmpty, s =>
    match s.rest with
    | [] => .error ⟨s.line, "Syntax error: Unterminated quoted string"⟩
    | b :: rest =>
      if b = 0x22 then .ok (if isEmpty then .literal [] true :: pieces else pieces, s.skip)
      else if b = 0x5C then
        match rest with
        | [] => fail s "Syntax error: Unterminated quoted string"
        | c :: _ =>
          if c = 0x0A then doubleQuoted n begins pieces isEmpty s.skip.skip
          else if c ∈ [0x24, 0x60, 0x22, 0x5C] then
            doubleQuoted n begins (put pieces c true) false s.skip.skip
          else doubleQuoted n begins (put (put pieces b true) c true) false s.skip.skip
      else if b = 0x60 ∨ b = 0x24 then do
        let (pieces, s) ← dollar n pieces true s
        doubleQuoted n begins pieces false s
      else doubleQuoted n begins (put pieces b true) false s.skip

/-- Reads what a dollar sign or a backquote begins. -/
def dollar : Nat → List Piece → Bool → Source → Outcome ((List Piece) × Source)
  | 0, _, _, s => fail s "Syntax error: too long"
  | n + 1, pieces, inQuotes, s =>
    match s.rest with
    | 0x60 :: rest =>
      match backquoted inQuotes rest with
      | none =>
        fail (Source.skipMany s.rest.length s) "Syntax error: EOF in backquote substitution"
      | some (text, length) => do
        let (body, inner) ← someList n { rest := text, aliases := s.aliases }
        if (gaps inner).rest.isEmpty then
          .ok (.output body inQuotes :: pieces, Source.skipMany (length + 1) s)
        else unexpected (gaps inner) none
    | 0x24 :: 0x28 :: 0x28 :: _ => do
      let (expression, s) ← arithmetic n 0 [] (Source.skipMany 3 s)
      .ok (.sum expression inQuotes :: pieces, s)
    | 0x24 :: 0x28 :: _ => do
      let (body, s) ← someList n (Source.skipMany 2 s)
      let s := gaps s
      if s.peek? = some 0x29 then .ok (.output body inQuotes :: pieces, s.skip)
      else unexpected s (some ")")
    | 0x24 :: 0x7B :: rest => do
      let (name, use, behind) := bracedHead rest
      let inner := Source.skipMany (2 + (rest.length - behind.length)) s
      match argument n [] (inQuotes && !isPatternUse use) inner with
      | .ok (argument, s) => .ok (.parameter name use argument inQuotes :: pieces, s)
      | .error fault =>
        .error (if fault.message = missingBrace then { fault with line := s.line } else fault)
    | _ :: rest =>
      match bareName? rest with
      | some name =>
        .ok (.parameter name .plain [] inQuotes :: pieces, Source.skipMany (1 + name.length) s)
      | none => .ok (put pieces 0x24 inQuotes, s.skip)
    | [] => .ok (pieces, s)

/-- Reads the argument of the use of a parameter up to its brace. -/
def argument : Nat → List Piece → Bool → Source → Outcome (Word × Source)
  | 0, _, _, s => fail s "Syntax error: too long"
  | n + 1, pieces, inQuotes, s =>
    match s.rest with
    | [] => fail s missingBrace
    | b :: rest =>
      if b = 0x7D then .ok (pieces.reverse, s.skip)
      else if b = 0x5C then
        match rest with
        | [] => fail s missingBrace
        | c :: _ =>
          if c = 0x0A then argument n pieces inQuotes s.skip.skip
          else if !inQuotes || c ∈ [0x24, 0x60, 0x22, 0x5C, 0x7D] then
            argument n (put pieces c true) inQuotes s.skip.skip
          else argument n (put (put pieces b true) c true) inQuotes s.skip.skip
      else if b = 0x27 ∧ !inQuotes then do
        let (pieces, s) ← singleQuoted n pieces s.skip
        argument n pieces inQuotes s
      else if b = 0x22 then do
        let (pieces, s) ← doubleQuoted n s.line pieces true s.skip
        argument n pieces inQuotes s
      else if b = 0x60 ∨ b = 0x24 then do
        let (pieces, s) ← dollar n pieces inQuotes s
        argument n pieces inQuotes s
      else argument n (put pieces b inQuotes) inQuotes s.skip

/-- Reads an expression up to the two parentheses that end it; `depth` parentheses are open in it. -/
def arithmetic : Nat → Nat → List Piece → Source → Outcome (Word × Source)
  | 0, _, _, s => fail s "Syntax error: too long"
  | n + 1, depth, pieces, s =>
    match s.rest with
    | [] => fail s "Syntax error: Missing '))'"
    | b :: rest =>
      if b = 0x29 then
        match depth with
        | d + 1 => arithmetic n d (put pieces b true) s.skip
        | 0 =>
          if rest.head? = some 0x29 then .ok (pieces.reverse, s.skip.skip)
          else arithmetic n 0 (put pieces b true) s.skip
      else if b = 0x28 then arithmetic n (depth + 1) (put pieces b true) s.skip
      else if b = 0x5C then
        match rest with
        | c :: _ =>
          if c = 0x0A then arithmetic n depth pieces s.skip.skip
          else arithmetic n depth (put (put pieces b true) c true) s.skip.skip
        | [] => fail s "Syntax error: Missing '))'"
      else if b = 0x60 ∨ b = 0x24 then do
        let (pieces, s) ← dollar n pieces true s
        arithmetic n depth pieces s
      else arithmetic n depth (put pieces b true) s.skip

/-- Reads a text in a script to its end. -/
def text : Nat → List Piece → Source → Outcome (Word × Source)
  | 0, _, s => fail s "Syntax error: too long"
  | n + 1, pieces, s =>
    match s.rest with
    | [] => .ok (pieces.reverse, s)
    | b :: rest =>
      if b = 0x5C then
        match rest with
        | [] => .ok ((put pieces b true).reverse, s.skip)
        | c :: _ =>
          if c = 0x0A then text n pieces s.skip.skip
          else if c ∈ [0x24, 0x60, 0x5C] then text n (put pieces c true) s.skip.skip
          else text n (put pieces b true) s.skip
      else if b = 0x60 ∨ b = 0x24 then do
        let (pieces, s) ← dollar n pieces true s
        text n pieces s
      else text n (put pieces b true) s.skip

/-- Reads a redirection of which the arrow has been seen. -/
def redirection : Nat → Option Nat → Arrow → Bool → Source → Outcome (Redirection × Source)
  | 0, _, _, _, s => fail s "Syntax error: too long"
  | n + 1, descriptor, arrow, isIndented, s => do
    let s := gap s
    match ahead s with
    | .word =>
      let (target, s) ← word n [] s
      if arrow = .text then
        let (mark, isQuoted) := rawText target
        let (content, s) := takeText isIndented mark s
        let pieces ← if isQuoted then pure [Piece.literal content true]
          else (text n [] { rest := content, line := s.line + 1 }).map (·.1)
        .ok (.mk (descriptor.getD 0) .text pieces, s)
      else
        let standard := match arrow with
          | .from | .both => 0
          | _ => 1
        .ok (.mk (descriptor.getD standard) arrow target, s)
    | _ => unexpected s none

/-- Reads redirections; those found stand last first. -/
def redirections : Nat → List Redirection → Source → Outcome ((List Redirection) × Source)
  | 0, _, s => fail s "Syntax error: too long"
  | n + 1, found, s =>
    match ahead (gap s) with
    | .arrow descriptor arrow isIndented length => do
      let (r, s) ← redirection n descriptor arrow isIndented (Source.skipMany length (gap s))
      redirections n (r :: found) s
    | _ => .ok (found.reverse, s)

/-- Reads a simple command, or the definition of a function; what has been found stands last first. -/
def simple : Nat → Nat → List (Bytes × Word) → List Word → List Redirection → Source → Outcome (Command × Source)
  | 0, _, _, _, _, s => fail s "Syntax error: too long"
  | n + 1, line, assignments, words, found, s => do
    let s := gap s
    match ahead s with
    | .arrow descriptor arrow isIndented length =>
      let (r, s) ← redirection n descriptor arrow isIndented (Source.skipMany length s)
      simple n line assignments words (r :: found) s
    | .word =>
      match words, replacement? s with
      | [], some s => simple n line assignments words found s
      | _, _ =>
        let (w, s) ← word n [] s
        match words, assignment? w with
        | [], some assignment => simple n line (assignment :: assignments) words found s
        | _, _ => simple n line assignments (w :: words) found s
    | .sign .openParenthesis _ =>
      match assignments, words, found with
      | [], [name], [] =>
        let behind := gap s.skip
        if behind.peek? ≠ some 0x29 then unexpected behind (some ")")
        else
          match Word.plain? name with
          | some name =>
            if isName name then do
              let (body, s) ← single n (gaps behind.skip)
              .ok (.function name body, s)
            else fail s "Syntax error: Bad function name"
          | none => fail s "Syntax error: Bad function name"
      | _, _, _ => unexpected s none
    | _ => .ok (.simple line assignments.reverse words.reverse found.reverse, s)

/-- Reads the commands of a list, which may be none. -/
def someList : Nat → Source → Outcome (Command × Source)
  | 0, s => fail s "Syntax error: too long"
  | n + 1, s =>
    let s := gaps s
    if endsList s then .ok (.nothing, s) else list n s

/-- Reads the commands of a list up to what ends it. -/
def list : Nat → Source → Outcome (Command × Source)
  | 0, s => fail s "Syntax error: too long"
  | n + 1, s => do
    let s := gaps s
    if s.rest.isEmpty then return (.nothing, s)
    let (first, s) ← chain n s
    let s := gap s
    match ahead s with
    | .sign .ampersand _ => listRest n (.background first) s.skip
    | .sign .semicolon _ => listRest n first s.skip
    | .sign .lineBreak _ => listRest n first s.skip
    | _ => .ok (first, s)

/-- Reads the commands of a list behind one. -/
def listRest : Nat → Command → Source → Outcome (Command × Source)
  | 0, _, s => fail s "Syntax error: too long"
  | n + 1, first, s => do
    let s := gaps s
    if endsList s then .ok (first, s)
    else
      let (others, s) ← list n s
      .ok (.sequence first others, s)

/-- Reads commands that depend on each other's success. -/
def chain : Nat → Source → Outcome (Command × Source)
  | 0, s => fail s "Syntax error: too long"
  | n + 1, s => do
    let (first, s) ← pipeline n s
    chainRest n first s

/-- Reads the commands that depend on the success of one. -/
def chainRest : Nat → Command → Source → Outcome (Command × Source)
  | 0, _, s => fail s "Syntax error: too long"
  | n + 1, first, s => do
    let s := gap s
    match ahead s with
    | .sign .and length =>
      let (second, s) ← pipeline n (gaps (Source.skipMany length s))
      chainRest n (.both first second) s
    | .sign .or length =>
      let (second, s) ← pipeline n (gaps (Source.skipMany length s))
      chainRest n (.either first second) s
    | _ => .ok (first, s)

/-- Reads commands of which each reads what the one before writes. -/
def pipeline : Nat → Source → Outcome (Command × Source)
  | 0, s => fail s "Syntax error: too long"
  | n + 1, s => do
    let isNegated := keyword? s = some "!"
    let (first, s) ← single n (if isNegated then gap s.skip else s)
    let (stages, s) ← pipelineRest n [first] s
    let body := match stages with
      | [only] => only
      | stages => .pipeline stages
    .ok (if isNegated then .negated body else body, s)

/-- Reads the commands of a pipeline behind one; those found stand last first. -/
def pipelineRest : Nat → List Command → Source → Outcome ((List Command) × Source)
  | 0, _, s => fail s "Syntax error: too long"
  | n + 1, found, s => do
    let s := gap s
    match ahead s with
    | .sign .bar _ =>
      let (next, s) ← single n (gaps s.skip)
      pipelineRest n (next :: found) s
    | _ => .ok (found.reverse, s)

/-- Reads one command. -/
def single : Nat → Source → Outcome (Command × Source)
  | 0, s => fail s "Syntax error: too long"
  | n + 1, s => do
    match ahead s with
    | .sign .openParenthesis _ =>
      let (body, s) ← list n s.skip
      let s := gaps s
      if s.peek? = some 0x29 then redirected n (.subshell body) s.skip
      else unexpected s (some ")")
    | .arrow .. => simple n s.line [] [] [] s
    | .word =>
      match keyword? s with
      | none =>
        match replacement? s with
        | some s => single n (gap s)
        | none => simple n s.line [] [] [] s
      | some "\x7b" =>
        let (body, s) ← list n s.skip
        redirected n body (← expect "\x7d" s)
      | some "if" =>
        let (body, s) ← branch n (s.skipMany 2)
        redirected n body s
      | some "while" =>
        let (condition, s) ← list n (s.skipMany 5)
        let (body, s) ← list n (← expect "do" s)
        redirected n (.loop false condition body) (← expect "done" s)
      | some "until" =>
        let (condition, s) ← list n (s.skipMany 5)
        let (body, s) ← list n (← expect "do" s)
        redirected n (.loop true condition body) (← expect "done" s)
      | some "for" =>
        let (body, s) ← each n (gap (s.skipMany 3))
        redirected n body s
      | some "case" =>
        let (body, s) ← choice n (gap (s.skipMany 4))
        redirected n body s
      | some _ => unexpected s none
    | _ => unexpected s none

/-- Reads the redirections of a command. -/
def redirected : Nat → Command → Source → Outcome (Command × Source)
  | 0, _, s => fail s "Syntax error: too long"
  | n + 1, body, s => do
    let (found, s) ← redirections n [] s
    .ok (if found.isEmpty then body else .redirected body found, s)

/-- Reads a branch behind its first word. -/
def branch : Nat → Source → Outcome (Command × Source)
  | 0, s => fail s "Syntax error: too long"
  | n + 1, s => do
    let (condition, s) ← list n s
    let (yes, s) ← list n (← expect "then" s)
    let s := gaps s
    match keyword? s with
    | some "elif" =>
      let (no, s) ← branch n (s.skipMany 4)
      .ok (.branch condition yes no, s)
    | some "else" =>
      let (no, s) ← list n (s.skipMany 4)
      .ok (.branch condition yes no, ← expect "fi" s)
    | _ => .ok (.branch condition yes .nothing, ← expect "fi" s)

/-- Reads a loop over words behind its first word. -/
def each : Nat → Source → Outcome (Command × Source)
  | 0, s => fail s "Syntax error: too long"
  | n + 1, s => do
    match ahead s with
    | .word =>
      let (name, s) ← word n [] s
      match (Word.plain? name).filter isName with
      | none => fail s "Syntax error: Bad for loop variable"
      | some name =>
        let behind := gaps s
        if keyword? behind = some "in" then
          let (words, s) ← words n [] (behind.skipMany 2)
          match ahead s with
          | .sign .semicolon _ | .sign .lineBreak _ =>
            let (body, s) ← list n (← expect "do" s.skip)
            .ok (.each name (some words) body, ← expect "done" s)
          | _ => unexpected s none
        else
          let s := if behind.peek? = some 0x3B then behind.skip else behind
          let (body, s) ← list n (← expect "do" s)
          .ok (.each name none body, ← expect "done" s)
    | _ => failAhead s "Syntax error: Bad for loop variable"

/-- Reads words; those found stand last first. -/
def words : Nat → List Word → Source → Outcome ((List Word) × Source)
  | 0, _, s => fail s "Syntax error: too long"
  | n + 1, found, s => do
    let s := gap s
    match ahead s with
    | .word =>
      let (w, s) ← word n [] s
      words n (w :: found) s
    | _ => .ok (found.reverse, s)

/-- Reads a choice behind its first word. -/
def choice : Nat → Source → Outcome (Command × Source)
  | 0, s => fail s "Syntax error: too long"
  | n + 1, s => do
    match ahead s with
    | .word =>
      let (w, s) ← word n [] s
      let (branches, s) ← branches n [] (← expect "in" s)
      .ok (.choice w branches, s)
    | _ => unexpected s (some "word")

/-- Reads the branches of a choice; those found stand last first. -/
def branches : Nat → List (List Word × Command) → Source → Outcome ((List (List Word × Command)) × Source)
  | 0, _, s => fail s "Syntax error: too long"
  | n + 1, found, s => do
    let s := gaps s
    if keyword? s = some "esac" then .ok (found.reverse, s.skipMany 4)
    else
      let s := if s.peek? = some 0x28 then gap s.skip else s
      let (patterns, s) ← patterns n [] s
      let (body, s) ← someList n s
      let s := gaps s
      match ahead s with
      | .sign .doubleSemicolon _ => branches n ((patterns, body) :: found) s.skip.skip
      | _ =>
        if keyword? s = some "esac" then .ok (((patterns, body) :: found).reverse, s.skipMany 4)
        else unexpected s (some ";;")

/-- Reads the patterns of a branch with the parenthesis behind them; those found stand last first. -/
def patterns : Nat → List Word → Source → Outcome ((List Word) × Source)
  | 0, _, s => fail s "Syntax error: too long"
  | n + 1, found, s => do
    match ahead s with
    | .word =>
      let (w, s) ← word n [] s
      let s := gap s
      match ahead s with
      | .sign .bar _ => patterns n (w :: found) (gap s.skip)
      | .sign .closeParenthesis _ => .ok ((w :: found).reverse, s.skip)
      | _ => unexpected s (some ")")
    | _ => unexpected s (some ")")

end

/-- What reading a line gives: its command, and what is behind the line unless the script ends on it. -/
abbrev Line := Command × Option Source

/-- Reads the commands of a line behind one, up to the end of the line. -/
def lineRest : Nat → Nat → Command → Source → Outcome Line
  | 0, _, _, s => fail s "Syntax error: too long"
  | n + 1, fuel, first, s => do
    let s := gap s
    match ahead s with
    | .nothing => .ok (first, none)
    | .sign .lineBreak _ => .ok (first, some s.skip)
    | _ =>
      let (next, s) ← chain fuel s
      let s := gap s
      match ahead s with
      | .sign .ampersand _ => lineRest n fuel (.sequence first (.background next)) s.skip
      | .sign .semicolon _ => lineRest n fuel (.sequence first next) s.skip
      | .sign .lineBreak _ => .ok (.sequence first next, some s.skip)
      | .nothing => .ok (.sequence first next, none)
      | _ => unexpected s none

/-- Reads the next line of a script that has a command on it, unless there is none. Commands of several
lines are read to their end. -/
def line (s : Source) : Outcome (Option Line) := do
  let s := gaps s
  if s.rest.isEmpty then return none
  let room := (s.aliases.map fun entry => entry.2.length + 1).foldl Nat.add 0
  let fuel := 16 * (s.rest.length + room * (room + s.rest.length)) + 64
  let (first, behind) ← chain fuel s
  let behind := gap behind
  match ahead behind with
  | .nothing => return some (first, none)
  | .sign .lineBreak _ => return some (first, some behind.skip)
  | .sign .ampersand _ => return some (← lineRest fuel fuel (.background first) behind.skip)
  | .sign .semicolon _ => return some (← lineRest fuel fuel first behind.skip)
  | _ => unexpected behind none

end Reader

end ClockWarden.Shell
