import ClockWarden.Shell.Command

/-! The expressions that a shell computes. They are about whole numbers of 64 bits, which wrap around;
a name stands for the number that its variable holds, and an expression may give it another one. -/

namespace ClockWarden.Shell

/-- What is done to two numbers. -/
inductive Operator where
  | times | over | rest | plus | minus | left | right
  | less | atMost | more | atLeast | same | other | and | differs | or
deriving DecidableEq, Repr

/-- What is done to one number. -/
inductive Turn where
  | keep | negate | deny | complement
deriving DecidableEq, Repr

/-- An expression. -/
inductive Expression where
  | number (value : Int)
  | named (name : Bytes)
  /-- Gives a variable a value, combined with the one that it had if there is an operator. -/
  | assign (name : Bytes) (operator : Option Operator) (value : Expression)
  | turned (turn : Turn) (value : Expression)
  | combine (operator : Operator) (left right : Expression)
  | both (left right : Expression)
  | either (left right : Expression)
  | choose (condition yes no : Expression)

namespace Expression

/-- A token of an expression. -/
inductive Token where
  | number (value : Int)
  | named (name : Bytes)
  | operator (operator : Operator)
  /-- Assigns, after combining if there is an operator. -/
  | gets (operator : Option Operator)
  | deny | complement | both | either | question | colon | opening | closing | bad
deriving DecidableEq

/-- The count of 64-bit numbers. -/
def modulus : Nat := 18446744073709551616

/-- A number, brought into the range of 64 bits. -/
def wrapped (n : Int) : Int := n.bmod modulus

/-- The greatest number. -/
def greatest : Nat := 9223372036854775807

/-- The value of a hexadecimal digit. -/
def hexValue? (b : UInt8) : Option Nat :=
  if isDigit b then some (b.toNat - 48)
  else if 0x61 ≤ b ∧ b ≤ 0x66 then some (b.toNat - 87)
  else if 0x41 ≤ b ∧ b ≤ 0x46 then some (b.toNat - 55)
  else none

/-- The value of digits, the base being known. -/
def digitsValue (base : Nat) (digits : Bytes) : Nat :=
  digits.foldl (fun n b => base * n + (hexValue? b).getD 0) 0

/-- The number that a text begins with, and what comes behind it. The digits say the base: sixteen
behind `0x`, eight behind another zero. -/
def numberAhead (text : Bytes) : Nat × Bytes :=
  let hexadecimal (digits : Bytes) : Bytes := digits.takeWhile fun b => (hexValue? b).isSome
  match text with
  | 0x30 :: x :: rest =>
    if (x = 0x78 ∨ x = 0x58) ∧ hexadecimal rest ≠ [] then
      (digitsValue 16 (hexadecimal rest), rest.drop (hexadecimal rest).length)
    else
      let digits := (x :: rest).takeWhile fun b => 0x30 ≤ b && b ≤ 0x37
      (digitsValue 8 digits, (x :: rest).drop digits.length)
  | _ =>
    let digits := text.takeWhile isDigit
    (digitsValue 10 digits, text.drop digits.length)

/-- The sign that a text begins with, and its length. -/
def signAhead (text : Bytes) : Token × Nat :=
  match text with
  | 0x3C :: 0x3C :: 0x3D :: _ => (.gets (some .left), 3)
  | 0x3E :: 0x3E :: 0x3D :: _ => (.gets (some .right), 3)
  | 0x3C :: 0x3C :: _ => (.operator .left, 2)
  | 0x3E :: 0x3E :: _ => (.operator .right, 2)
  | 0x3C :: 0x3D :: _ => (.operator .atMost, 2)
  | 0x3E :: 0x3D :: _ => (.operator .atLeast, 2)
  | 0x3D :: 0x3D :: _ => (.operator .same, 2)
  | 0x21 :: 0x3D :: _ => (.operator .other, 2)
  | 0x26 :: 0x26 :: _ => (.both, 2)
  | 0x7C :: 0x7C :: _ => (.either, 2)
  | 0x7C :: 0x3D :: _ => (.gets (some .or), 2)
  | 0x26 :: 0x3D :: _ => (.gets (some .and), 2)
  | 0x5E :: 0x3D :: _ => (.gets (some .differs), 2)
  | 0x2A :: 0x3D :: _ => (.gets (some .times), 2)
  | 0x2F :: 0x3D :: _ => (.gets (some .over), 2)
  | 0x25 :: 0x3D :: _ => (.gets (some .rest), 2)
  | 0x2B :: 0x3D :: _ => (.gets (some .plus), 2)
  | 0x2D :: 0x3D :: _ => (.gets (some .minus), 2)
  | 0x3C :: _ => (.operator .less, 1)
  | 0x3E :: _ => (.operator .more, 1)
  | 0x3D :: _ => (.gets none, 1)
  | 0x21 :: _ => (.deny, 1)
  | 0x7E :: _ => (.complement, 1)
  | 0x26 :: _ => (.operator .and, 1)
  | 0x7C :: _ => (.operator .or, 1)
  | 0x5E :: _ => (.operator .differs, 1)
  | 0x2A :: _ => (.operator .times, 1)
  | 0x2F :: _ => (.operator .over, 1)
  | 0x25 :: _ => (.operator .rest, 1)
  | 0x2B :: _ => (.operator .plus, 1)
  | 0x2D :: _ => (.operator .minus, 1)
  | 0x3F :: _ => (.question, 1)
  | 0x3A :: _ => (.colon, 1)
  | 0x28 :: _ => (.opening, 1)
  | 0x29 :: _ => (.closing, 1)
  | _ => (.bad, 1)

/-- The tokens of an expression; every one takes a character at least. -/
def tokens : Nat → Bytes → List Token
  | 0, _ => []
  | n + 1, text =>
    match text with
    | [] => []
    | b :: rest =>
      if b = 0x20 ∨ b = 0x09 ∨ b = 0x0A then tokens n rest
      else if isDigit b then
        let (value, rest) := numberAhead text
        .number (if value < greatest then value else greatest) :: tokens n rest
      else if isNameStart b then
        let name := text.takeWhile isNameRest
        .named name :: tokens n (text.drop name.length)
      else
        let (sign, length) := signAhead text
        sign :: tokens n (text.drop length)

/-- How tightly an operator binds; the lesser number binds tighter. -/
def rank : Operator → Nat
  | .times | .over | .rest => 0
  | .plus | .minus => 1
  | .left | .right => 2
  | .less | .atMost | .more | .atLeast => 3
  | .same | .other => 4
  | .and => 5
  | .differs => 6
  | .or => 7

/-- What reading gives: an expression and the tokens behind it, or a complaint. -/
abbrev Outcome := Except String (Expression × List Token)

mutual

/-- Reads an assignment, or what stands in the place of one. -/
def assignment : Nat → List Token → Outcome
  | 0, _ => .error "expecting primary"
  | n + 1, .named name :: .gets operator :: rest => do
    let (value, rest) ← assignment n rest
    .ok (.assign name operator value, rest)
  | n + 1, tokens => conditional n tokens

/-- Reads a choice between two values, or what stands in the place of one. -/
def conditional : Nat → List Token → Outcome
  | 0, _ => .error "expecting primary"
  | n + 1, tokens => do
    match ← alternatives n tokens with
    | (condition, .question :: rest) =>
      match ← assignment n rest with
      | (yes, .colon :: rest) =>
        let (no, rest) ← conditional n rest
        .ok (.choose condition yes no, rest)
      | _ => .error "expecting ':'"
    | other => .ok other

/-- Reads expressions of which one has to hold. -/
def alternatives : Nat → List Token → Outcome
  | 0, _ => .error "expecting primary"
  | n + 1, tokens => do
    match ← conditions n tokens with
    | (left, .either :: rest) =>
      let (right, rest) ← alternatives n rest
      .ok (.either left right, rest)
    | other => .ok other

/-- Reads expressions of which all have to hold. -/
def conditions : Nat → List Token → Outcome
  | 0, _ => .error "expecting primary"
  | n + 1, tokens => do
    match ← combination n 8 tokens with
    | (left, .both :: rest) =>
      let (right, rest) ← conditions n rest
      .ok (.both left right, rest)
    | other => .ok other

/-- Reads an expression whose operators bind tighter than a rank. -/
def combination : Nat → Nat → List Token → Outcome
  | 0, _, _ => .error "expecting primary"
  | n + 1, limit, tokens => do
    let (left, rest) ← primary n tokens
    combinationRest n limit left rest

/-- Reads what is combined with an expression by operators that bind tighter than a rank. -/
def combinationRest : Nat → Nat → Expression → List Token → Outcome
  | 0, _, _, _ => .error "expecting primary"
  | n + 1, limit, left, tokens =>
    match tokens with
    | .operator operator :: rest =>
      if rank operator < limit then do
        let (right, rest) ← combination n (rank operator) rest
        combinationRest n limit (.combine operator left right) rest
      else .ok (left, tokens)
    | _ => .ok (left, tokens)

/-- Reads a number, a name, or an expression in parentheses, with the signs in front of it. -/
def primary : Nat → List Token → Outcome
  | 0, _ => .error "expecting primary"
  | n + 1, tokens =>
    match tokens with
    | .number value :: rest => .ok (.number value, rest)
    | .named name :: rest => .ok (.named name, rest)
    | .operator .plus :: rest => primary n rest
    | .operator .minus :: rest => (primary n rest).map fun (e, rest) => (.turned .negate e, rest)
    | .deny :: rest => (primary n rest).map fun (e, rest) => (.turned .deny e, rest)
    | .complement :: rest => (primary n rest).map fun (e, rest) => (.turned .complement e, rest)
    | .opening :: rest => do
      match ← assignment n rest with
      | (inner, .closing :: rest) => .ok (inner, rest)
      | _ => .error "expecting ')'"
    | _ => .error "expecting primary"

end

/-- The expression that a text is. -/
def ofText (text : Bytes) : Except String Expression := do
  let tokens := tokens (text.length + 1) text
  match ← assignment (12 * tokens.length + 12) tokens with
  | (e, []) => .ok e
  | _ => .error "expecting EOF"

/-- The number that a truth value counts as. -/
def ofBool (b : Bool) : Int := if b then 1 else 0

/-- Combines the bits of two numbers. -/
def bitwise (combine : Nat → Nat → Nat) (a b : Int) : Int :=
  wrapped (combine (a % modulus).toNat (b % modulus).toNat)

/-- Combines two numbers; nothing can be divided by zero. -/
def combined (operator : Operator) (a b : Int) : Except String Int :=
  match operator with
  | .times => .ok (wrapped (a * b))
  | .over => if b = 0 then .error "division by zero" else .ok (wrapped (a.tdiv b))
  | .rest => if b = 0 then .error "division by zero" else .ok (a.tmod b)
  | .plus => .ok (wrapped (a + b))
  | .minus => .ok (wrapped (a - b))
  | .left => .ok (wrapped (a * (1 <<< (b % 64).toNat : Nat)))
  | .right => .ok (a >>> (b % 64).toNat)
  | .less => .ok (ofBool (a < b))
  | .atMost => .ok (ofBool (a ≤ b))
  | .more => .ok (ofBool (b < a))
  | .atLeast => .ok (ofBool (b ≤ a))
  | .same => .ok (ofBool (a = b))
  | .other => .ok (ofBool (a ≠ b))
  | .and => .ok (bitwise Nat.land a b)
  | .differs => .ok (bitwise Nat.xor a b)
  | .or => .ok (bitwise Nat.lor a b)

/-- The number that is made of another one. -/
def changed (turn : Turn) (a : Int) : Int :=
  match turn with
  | .keep => a
  | .negate => wrapped (-a)
  | .deny => ofBool (a = 0)
  | .complement => -a - 1

/-- The decimal text of a number. -/
def decimal (n : Int) : Bytes := Utf8.encode (toString n)

/-- Whether a character may stand around a number. -/
def isBlank (b : UInt8) : Bool := b == 0x20 || (0x09 ≤ b && b ≤ 0x0D)

/-- The number that the value of a variable is. -/
def ofValue? (value : Bytes) : Option Int :=
  let text := value.dropWhile isBlank
  let (isNegative, text) := match text with
    | 0x2D :: rest => (true, rest)
    | 0x2B :: rest => (false, rest)
    | _ => (false, text)
  match text with
  | [] => if value.all isBlank then some 0 else none
  | b :: _ =>
    if !isDigit b then none
    else
      let (n, rest) := numberAhead text
      if !rest.all isBlank || greatest + 1 < n then none
      else some (if isNegative then -n else n)

/-- The variables that expressions read and set: what those hold that were set, and the others. -/
structure Scope where
  known : Bytes → Option Bytes
  given : List (Bytes × Bytes) := []

/-- The number that a variable holds. -/
def Scope.read (scope : Scope) (name : Bytes) : Except String Int :=
  let value := (((scope.given.lookup name).orElse fun _ => scope.known name)).getD []
  match ofValue? value with
  | some n => .ok n
  | none => .error ("Illegal number: " ++ Utf8.decodeLossy value)

/-- The value of an expression, and the variables after it. -/
def value (scope : Scope) : Expression → Except String (Int × Scope)
  | .number n => .ok (n, scope)
  | .named name => do .ok (← scope.read name, scope)
  | .assign name operator e => do
    let (n, scope) ← value scope e
    let n ← match operator with
      | none => pure n
      | some operator => do combined operator (← scope.read name) n
    .ok (n, { scope with given := (name, decimal n) :: scope.given })
  | .turned turn e => do
    let (n, scope) ← value scope e
    .ok (changed turn n, scope)
  | .combine operator left right => do
    let (a, scope) ← value scope left
    let (b, scope) ← value scope right
    .ok (← combined operator a b, scope)
  | .both left right => do
    let (a, scope) ← value scope left
    if a = 0 then .ok (0, scope)
    else
      let (b, scope) ← value scope right
      .ok (ofBool (b ≠ 0), scope)
  | .either left right => do
    let (a, scope) ← value scope left
    if a ≠ 0 then .ok (1, scope)
    else
      let (b, scope) ← value scope right
      .ok (ofBool (b ≠ 0), scope)
  | .choose condition yes no => do
    let (c, scope) ← value scope condition
    if c ≠ 0 then value scope yes else value scope no

/-- The value of the expression that a text is, and the variables that it sets, the last one first. -/
def compute (known : Bytes → Option Bytes) (text : Bytes) :
    Except String (Int × List (Bytes × Bytes)) :=
  let complain (cause : String) : String :=
    if cause.startsWith "Illegal" then cause
    else "arithmetic expression: " ++ cause ++ ": \"" ++ Utf8.decodeLossy text ++ "\""
  match ofText text with
  | .error cause => .error (complain cause)
  | .ok e =>
    match value { known } e with
    | .error cause => .error (complain cause)
    | .ok (n, scope) => .ok (n, scope.given)

end Expression

end ClockWarden.Shell
