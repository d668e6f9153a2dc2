import ClockWarden.Text.Utf8

/-! The commands of a shell script and the words in them. A word is made of pieces, some of them quoted;
a quoted piece stands for itself, and what an unquoted one turns into may be split into several words. -/

namespace ClockWarden.Shell

/-- Where a redirection leads. -/
inductive Arrow where
  | from
  | into
  | onto
  /-- Into a file that may be there already, whatever the shell was told to spare. -/
  | over
  /-- To a file that is read and written. -/
  | both
  /-- To where another descriptor leads. -/
  | same
  /-- From a text in the script. -/
  | text
deriving DecidableEq, Repr

/-- What is done with the value of a parameter. -/
inductive Use where
  | plain
  | length
  /-- Takes another text where there is no value; `blankToo` where the value is empty, too. -/
  | otherwise (blankToo : Bool)
  | assign (blankToo : Bool)
  | complain (blankToo : Bool)
  /-- Takes another text where there is a value. -/
  | instead (blankToo : Bool)
  | withoutPrefix (isLongest : Bool)
  | withoutSuffix (isLongest : Bool)
  /-- A use that makes no sense. -/
  | bad
deriving DecidableEq, Repr

mutual

/-- A piece of a word. -/
inductive Piece where
  | literal (text : Bytes) (isQuoted : Bool)
  | parameter (name : Bytes) (use : Use) (argument : List Piece) (isQuoted : Bool)
  /-- What a command writes. -/
  | output (body : Command) (isQuoted : Bool)
  /-- The value of an expression. -/
  | sum (expression : List Piece) (isQuoted : Bool)

/-- Where a command reads or writes instead of where it would. -/
inductive Redirection where
  | mk (descriptor : Nat) (arrow : Arrow) (target : List Piece)

/-- A command of a script. Simple commands know the line on which they stand. -/
inductive Command where
  | nothing
  | simple (line : Nat) (assignments : List (Bytes × List Piece)) (words : List (List Piece))
      (redirections : List Redirection)
  | sequence (first second : Command)
  | background (body : Command)
  | both (first second : Command)
  | either (first second : Command)
  | negated (body : Command)
  | pipeline (stages : List Command)
  | loop (isUntil : Bool) (condition body : Command)
  /-- A loop over words, or over the parameters of the shell. -/
  | each (name : Bytes) (words : Option (List (List Piece))) (body : Command)
  | choice (word : List Piece) (branches : List (List (List Piece) × Command))
  | branch (condition yes no : Command)
  | subshell (body : Command)
  | redirected (body : Command) (redirections : List Redirection)
  | function (name : Bytes) (body : Command)

end

/-- A word of a script. -/
abbrev Word := List Piece

instance : Inhabited Command := ⟨.nothing⟩

/-- The text of a word that is written without quotes and parameters. -/
def Word.plain? : Word → Option Bytes
  | [.literal text false] => some text
  | _ => none

/-- Whether a character may begin a name. -/
def isNameStart (b : UInt8) : Bool :=
  (0x41 ≤ b && b ≤ 0x5A) || (0x61 ≤ b && b ≤ 0x7A) || b == 0x5F

/-- Whether a character is a decimal digit. -/
def isDigit (b : UInt8) : Bool := 0x30 ≤ b && b ≤ 0x39

/-- Whether a character may stand within a name. -/
def isNameRest (b : UInt8) : Bool := isNameStart b || isDigit b

/-- Whether a byte string may name a variable. -/
def isName : Bytes → Bool
  | [] => false
  | first :: rest => isNameStart first && rest.all isNameRest

/-- The number that digits give. -/
def numeral? (digits : Bytes) : Option Nat :=
  if digits.isEmpty || !digits.all isDigit then none
  else some (digits.foldl (fun n b => 10 * n + (b.toNat - 48)) 0)

end ClockWarden.Shell
