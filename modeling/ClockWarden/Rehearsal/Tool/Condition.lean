import ClockWarden.Rehearsal.Tool.Call

/-! Tests of texts, numbers and files. Their words are read from left to right; how a word is understood
depends on how many follow it. -/

namespace ClockWarden.Rehearsal

open Host Shell

/-- What a word of a test may mean. -/
inductive TestSign where
  | operand
  | unary (letter : Char)
  | binary (name : String)
  | deny
  | and
  | or
  | opening
  | closing
  | nothing
deriving DecidableEq

namespace TestSign

def unaryLetters : String := "rwxefdcbpugkszntOGLhS"

def binaryNames : List String :=
  ["=", "!=", "<", ">", "-eq", "-ne", "-ge", "-gt", "-le", "-lt", "-nt", "-ot", "-ef"]

/-- The sign that a word is, if it is one. -/
def ofWord? (word : Bytes) : Option TestSign :=
  let text := wordText word
  if binaryNames.contains text then some (.binary text)
  else
    match text.toList with
    | ['!'] => some .deny
    | ['('] => some .opening
    | [')'] => some .closing
    | ['-', 'a'] => some .and
    | ['-', 'o'] => some .or
    | ['-', letter] => if unaryLetters.toList.contains letter then some (.unary letter) else none
    | _ => none

def isBinary : TestSign → Bool
  | .binary _ => true
  | _ => false

end TestSign

/-- What is asked of the files in a test. -/
structure TestGround where
  isMet : Char → Bytes → Bool
  areMet : String → Bytes → Bytes → Bool

/-- The words of a test that are still to be read; the first of them is the one at hand. -/
abbrev TestWords := List Bytes

/-- Why words are no test. -/
inductive TestFault where
  | noNumber (word : Bytes)
  | lacksSubject (operator : Bytes)
  | unexpected (word : Bytes)
  | unclosed
  | tooLong

namespace TestFault

/-- What a shell says about it. -/
def inShell : TestFault → Bytes
  | noNumber word => ascii "Illegal number: " ++ word
  | lacksSubject operator => operator ++ ascii ": argument expected"
  | unexpected word => if word = [] then ascii "unexpected operator" else word ++ ascii ": unexpected operator"
  | unclosed => ascii "closing paren expected"
  | tooLong => ascii "too long"

/-- What the program says about it, which goes by the count of the words. -/
def inProgram (words : List Bytes) : TestFault → Bytes
  | noNumber word => ascii "invalid integer " ++ quoted word
  | lacksSubject operator => ascii "missing argument after " ++ quoted operator
  | unclosed => ascii "')' expected"
  | tooLong => ascii "too long"
  | unexpected word =>
    match words with
    | [first, second] =>
      if first.head? = some 0x2D ∧ first.length = 2 then quoted first ++ ascii ": unary operator expected"
      else ascii "missing argument after " ++ quoted second
    | [_, second, _] => quoted second ++ ascii ": binary operator expected"
    | _ =>
      let behind := (words.dropWhile (· ≠ word)).drop 1
      ascii "extra argument " ++ quoted ((behind.head?).getD word)

end TestFault

namespace Condition

/-- The sign at the front of words. A sign that lacks its subject is an operand. -/
def sign (words : TestWords) : TestSign :=
  match words with
  | [] => .nothing
  | word :: rest =>
    match TestSign.ofWord? word with
    | none => .operand
    | some (.unary letter) =>
      let isOperand : Bool := match rest with
        | [] => true
        | [_] => false
        | next :: _ => ((TestSign.ofWord? next).map TestSign.isBinary).getD false
      if isOperand then .operand else .unary letter
    | some .opening => if rest.isEmpty then .operand else .opening
    | some sign => sign

/-- The number that a word is. -/
def number (word : Bytes) : Except TestFault Int :=
  let isGap (b : UInt8) : Bool := b == 0x20 || (0x09 ≤ b && b ≤ 0x0D)
  let text := ((word.dropWhile isGap).reverse.dropWhile isGap).reverse
  match integer? text with
  | some n => .ok n
  | none => .error (.noNumber word)

/-- The outcome of a test of two things. -/
def two (ground : TestGround) (left : Bytes) (name : String) (right : Bytes) : Except TestFault Bool := do
  let compare (holds : Int → Int → Bool) : Except TestFault Bool := do
    let a ← number left
    return holds a (← number right)
  match name with
  | "=" => .ok (left = right)
  | "!=" => .ok (left ≠ right)
  | "<" => .ok (bytesBefore left right)
  | ">" => .ok (bytesBefore right left)
  | "-eq" => compare fun a b => a = b
  | "-ne" => compare fun a b => a ≠ b
  | "-lt" => compare fun a b => a < b
  | "-le" => compare fun a b => a ≤ b
  | "-gt" => compare fun a b => b < a
  | "-ge" => compare fun a b => b ≤ a
  | name => .ok (ground.areMet name left right)

/-- What is left of words behind the one at hand; the last one stays at hand. -/
def behind (words : TestWords) : TestWords := words.drop 1

mutual

/-- Reads tests of which one has to be met; what is left begins with the last word read. -/
def alternatives (ground : TestGround) : Nat → TestWords → Except TestFault (Bool × TestWords)
  | 0, _ => .error .tooLong
  | n + 1, words => do
    let (holds, words) ← conditions ground n words
    if sign (behind words) = .or then
      let (others, words) ← alternatives ground n (words.drop 2)
      return (holds || others, words)
    else return (holds, words)

/-- Reads tests of which all have to be met. -/
def conditions (ground : TestGround) : Nat → TestWords → Except TestFault (Bool × TestWords)
  | 0, _ => .error .tooLong
  | n + 1, words => do
    let (holds, words) ← denials ground n words
    if sign (behind words) = .and then
      let (others, words) ← conditions ground n (words.drop 2)
      return (holds && others, words)
    else return (holds, words)

/-- Reads a test that may be denied. -/
def denials (ground : TestGround) : Nat → TestWords → Except TestFault (Bool × TestWords)
  | 0, _ => .error .tooLong
  | n + 1, words => do
    if sign words = .deny then
      if (behind words).isEmpty then return (true, words)
      else
        let (holds, words) ← denials ground n (behind words)
        return (!holds, words)
    else primary ground n words

/-- Reads a test of one or two things, or one in parentheses. -/
def primary (ground : TestGround) : Nat → TestWords → Except TestFault (Bool × TestWords)
  | 0, _ => .error .tooLong
  | n + 1, words => do
    match words, sign words with
    | [], _ => return (false, [])
    | _, .opening =>
      let inner := behind words
      if sign inner = .closing then return (false, inner)
      else
        let (holds, words) ← alternatives ground n inner
        if sign (behind words) = .closing then return (holds, behind words)
        else throw .unclosed
    | word :: rest, .unary letter =>
      match rest with
      | [] => throw (.lacksSubject word)
      | subject :: _ =>
        return (match letter with
          | 'z' => subject = []
          | 'n' => subject ≠ []
          | _ => ground.isMet letter subject, rest)
    | word :: rest, _ =>
      match rest, sign rest with
      | operator :: right, .binary name =>
        match right with
        | [] => throw (.lacksSubject operator)
        | subject :: _ => return (← two ground word name subject, right)
      | _, _ => return (word ≠ [], words)

end

/-- The outcome of reading words as a test from the front; no words may be left. -/
def whole (ground : TestGround) (words : TestWords) : Except TestFault Bool := do
  let (holds, left) ← alternatives ground (8 * words.length + 8) words
  match left with
  | word :: _ :: _ =>
    throw (.unexpected word)
  | _ => return holds

/-- The outcome of a test. Three words with an operator in the middle are read as such whatever the
others are, and then a denial or parentheses are. -/
def outcome (ground : TestGround) : TestWords → Except TestFault Bool
  | [] => .ok false
  | word :: rest =>
    let isThree : Bool := rest.length = 2
    let middle : Option TestSign := rest.head?.bind TestSign.ofWord?
    match isThree, middle, rest with
    | true, some (.binary name), [_, right] => two ground word name right
    | _, _, _ =>
      if isThree || rest.length = 3 then
        if word = [0x28] ∧ rest.getLast? = some [0x29] then whole ground rest.dropLast
        else if word = [0x21] then (outcome ground rest).map not
        else whole ground (word :: rest)
      else whole ground (word :: rest)

end Condition

/-- What tests ask of the files that a process sees. -/
def World.testGround (w : World) (p : Process) : TestGround :=
  let found (path : Bytes) : Option Node :=
    match w.lookFor p path with
    | .ok (_, node) => some node
    | .error _ => none
  let isLink (path : Bytes) : Bool :=
    match (w.filesFor p path).lookWith false p.directory path with
    | .ok (_, .link _) => true
    | _ => false
  let has (path : Bytes) (isMeant : Node → Bool) : Bool := ((found path).map isMeant).getD false
  { isMet := fun letter subject =>
      match letter with
      | 'e' => (found subject).isSome
      | 'r' => has subject fun
        | .file _ mode => Node.isReadable mode
        | _ => true
      | 'w' => has subject fun
        | .file _ mode => Node.isWritable mode
        | .program _ => false
        | .directory =>
          match w.lookFor p subject with
          | .ok (location, _) => Files.isOpen (location ++ [[]])
          | .error _ => false
        | _ => true
      | 'x' => has subject fun
        | .file _ mode => Node.isExecutable mode
        | .device | .stream .. => false
        | _ => true
      | 'd' => has subject fun node => node = .directory
      | 'f' => has subject fun
        | .file .. | .program _ => true
        | _ => false
      | 's' => has subject fun
        | .file content _ => content ≠ []
        | .device | .stream .. => false
        | _ => true
      | 'c' => has subject fun node => node = .device
      | 'p' => has subject fun
        | .stream handle _ =>
          match w.opened[handle]? with
          | some file =>
            match file.channel with
            | .reader _ | .writer _ | .text _ => true
            | _ => false
          | none => false
        | _ => false
      | 'L' | 'h' => isLink subject
      | 'O' | 'G' => has subject fun
        | .file .. => true
        | _ => false
      | _ => false
    areMet := fun name left right =>
      match name, w.lookFor p left, w.lookFor p right with
      | "-ef", .ok (a, _), .ok (b, _) => a = b
      | "-nt", .ok _, .error _ => true
      | "-ot", .error _, .ok _ => true
      | _, _, _ => false }

end ClockWarden.Rehearsal
