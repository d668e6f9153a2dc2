import ClockWarden.Json.Fault

/-! Numbers in a JSON text. `number` reads one with its value: an integer that fits 64 bits exactly,
any other number as the product or quotient of its leading digits and a power of ten. `skipNumber`
passes over one and looks at its shape only. -/

namespace ClockWarden.Json

open Decimal

def isDigit (b : UInt8) : Bool := 0x30 ≤ b && b ≤ 0x39

def digitValue (b : UInt8) : Nat := b.toNat - 0x30

/-- Leading digits of a number: their value below `2 ^ 64`, how many count, and how many came after
one that did not fit. -/
structure Leading where
  value : Nat
  kept : Nat
  dropped : Nat
deriving DecidableEq

/-- Takes one more digit, unless it or an earlier one does not fit. -/
def Leading.push (l : Leading) (b : UInt8) : Leading :=
  let value := l.value * 10 + digitValue b
  if l.dropped = 0 ∧ value < Nat.pow 2 64 then ⟨value, l.kept + 1, 0⟩
  else { l with dropped := l.dropped + 1 }

/-- The digits at the front, after digits with the given value. -/
def leadingDigits (value : Nat) (text : Bytes) : Leading × Bytes :=
  ((text.takeWhile isDigit).foldl Leading.push ⟨value, 0, 0⟩, text.dropWhile isDigit)

/-- The powers of ten that are rounded before they are used. -/
def maxPower : Nat := 308

/-- `value * 10 ^ exponent`, rounded after each step; nothing if it is beyond all values. Divisions by
the greatest power are repeated, and two of them take any 64 bits to zero. -/
def scaleByTen (value : Binary64) (exponent : Int) : Nat → Option Binary64
  | 0 => some .zero
  | steps + 1 =>
    if exponent.natAbs ≤ maxPower then do
      let power ← Binary64.ofNat (Nat.pow 10 exponent.natAbs)
      if 0 ≤ exponent then value.mul power else value.div power
    else if value.mantissa = 0 then some value
    else if 0 ≤ exponent then none
    else do
      let power ← Binary64.ofNat (Nat.pow 10 maxPower)
      let smaller ← value.div power
      scaleByTen smaller (exponent + maxPower) steps

/-- The number `± digits * 10 ^ exponent` in front of `rest`. -/
def floatingNumber (isNegative : Bool) (digits : Nat) (exponent : Int) (rest : Bytes) :
    Reading Number :=
  match (Binary64.ofNat digits).bind fun value => scaleByTen value exponent 3 with
  | some magnitude => .ok (.floating isNegative magnitude, rest)
  | none => .error (.before .numberTooLarge rest)

/-- The digits of an exponent up to the first that does not fit 31 bits. -/
def exponentDigits (value : Nat) : Bytes → Except Bytes (Nat × Bytes)
  | [] => .ok (value, [])
  | b :: rest =>
    if isDigit b then
      let value := value * 10 + digitValue b
      if value < Nat.pow 2 31 then exponentDigits value rest else .error rest
    else .ok (value, b :: rest)

/-- Reads what follows the letter of an exponent. -/
def exponentPart (isNegative : Bool) (digits : Nat) (shift : Int) (text : Bytes) : Reading Number :=
  let (isSmall, text) := match text with
    | 0x2B :: rest => (false, rest)
    | 0x2D :: rest => (true, rest)
    | _ => (false, text)
  match text with
  | [] => .error (.before .endInValue [])
  | b :: rest =>
    if isDigit b then
      match exponentDigits (digitValue b) rest with
      | .ok (n, rest) =>
        floatingNumber isNegative digits (if isSmall then shift - n else shift + n) rest
      | .error rest =>
        if digits ≠ 0 ∧ !isSmall then .error (.before .numberTooLarge rest)
        else .ok (.floating isNegative .zero, rest.dropWhile isDigit)
    else .error (.before .badNumber rest)

/-- Reads what follows the point of a number. -/
def fractionPart (isNegative : Bool) (digits : Nat) (shift : Int) (text : Bytes) : Reading Number :=
  let (leading, rest) := leadingDigits digits text
  if leading.kept = 0 ∧ leading.dropped = 0 then
    match text with
    | [] => .error (.before .endInValue [])
    | _ => .error (.atNext .badNumber text)
  else
    let shift := shift - leading.kept
    match rest with
    | 0x65 :: rest => exponentPart isNegative leading.value shift rest
    | 0x45 :: rest => exponentPart isNegative leading.value shift rest
    | rest => floatingNumber isNegative leading.value shift rest

/-- Reads what follows the digits before the point. -/
def afterInteger (isNegative : Bool) (digits dropped : Nat) (text : Bytes) : Reading Number :=
  match text with
  | 0x2E :: rest => fractionPart isNegative digits dropped rest
  | 0x65 :: rest => exponentPart isNegative digits dropped rest
  | 0x45 :: rest => exponentPart isNegative digits dropped rest
  | rest =>
    if dropped ≠ 0 then floatingNumber isNegative digits dropped rest
    else if !isNegative then .ok (.natural digits, rest)
    else if digits = 0 ∨ Nat.pow 2 63 < digits then floatingNumber true digits 0 rest
    else .ok (.negative digits, rest)

/-- Reads a number after its sign. -/
def unsignedNumber (isNegative : Bool) : Bytes → Reading Number
  | [] => .error (.before .endInValue [])
  | b :: rest =>
    if b = 0x30 then
      match rest with
      | d :: _ =>
        if isDigit d then .error (.atNext .badNumber rest) else afterInteger isNegative 0 0 rest
      | [] => afterInteger isNegative 0 0 []
    else if isDigit b then
      let (leading, rest) := leadingDigits 0 (b :: rest)
      afterInteger isNegative leading.value leading.dropped rest
    else .error (.before .badNumber rest)

/-- Whether a number may begin with the byte. -/
def startsNumber (b : UInt8) : Bool := b = 0x2D || isDigit b

/-- Reads a number. -/
def number : Bytes → Reading Number
  | 0x2D :: rest => unsignedNumber true rest
  | text => unsignedNumber false text

/-- Passes over what follows the letter of an exponent. -/
def skipExponent (text : Bytes) : Except Fault Bytes :=
  let text := match text with
    | 0x2B :: rest => rest
    | 0x2D :: rest => rest
    | _ => text
  match text with
  | [] => .error (.before .badNumber [])
  | b :: rest =>
    if isDigit b then .ok (rest.dropWhile isDigit) else .error (.before .badNumber rest)

/-- Passes over what follows the digits before the point. -/
def skipFraction (text : Bytes) : Except Fault Bytes :=
  match text with
  | 0x65 :: rest => skipExponent rest
  | 0x45 :: rest => skipExponent rest
  | 0x2E :: rest =>
    match rest.dropWhile isDigit with
    | 0x65 :: after => if startsDigit rest then skipExponent after else noDigit rest
    | 0x45 :: after => if startsDigit rest then skipExponent after else noDigit rest
    | after => if startsDigit rest then .ok after else noDigit rest
  | rest => .ok rest
where
  /-- Whether a digit comes next. -/
  startsDigit (text : Bytes) : Bool := (text.head?.map isDigit).getD false
  /-- A point without a digit behind it. -/
  noDigit (text : Bytes) : Except Fault Bytes := .error (.atNext .badNumber text)

/-- Passes over a number after its sign. -/
def skipUnsigned : Bytes → Except Fault Bytes
  | [] => .error (.before .badNumber [])
  | b :: rest =>
    if b = 0x30 then
      match rest with
      | d :: _ => if isDigit d then .error (.atNext .badNumber rest) else skipFraction rest
      | [] => .ok []
    else if isDigit b then skipFraction (rest.dropWhile isDigit)
    else .error (.before .badNumber rest)

/-- Passes over a number. -/
def skipNumber : Bytes → Except Fault Bytes
  | 0x2D :: rest => skipUnsigned rest
  | text => skipUnsigned text

end ClockWarden.Json
