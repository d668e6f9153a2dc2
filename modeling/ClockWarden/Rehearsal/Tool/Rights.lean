import ClockWarden.Rehearsal.Tool.Formatted

/-! The rights that a mode gives to the owner of a file, to the group and to all others: three bits for
each, to read, to write and to execute. -/

namespace ClockWarden.Rehearsal

open Host Shell

/-- All rights of all. -/
def allRights : Nat := 0o777

/-- The bits of the rights that letters name. -/
def rightBits (letters : Bytes) : Nat :=
  (letters.map fun letter =>
    if letter = 0x72 then 4 else if letter = 0x77 then 2 else if letter = 0x78 then 1 else 0).foldl
    Nat.lor 0

/-- Gives bits to those that letters name; to all where there are no letters, short of a mask. -/
def spreadRights (mask : Nat) (who : Bytes) (bits : Nat) : Nat :=
  let isFor (b : UInt8) : Bool := who.isEmpty || who.contains b || who.contains 0x61
  let spread := (if isFor 0x75 then bits * 64 else 0) + (if isFor 0x67 then bits * 8 else 0) +
    if isFor 0x6F then bits else 0
  if who.isEmpty then spread - Nat.land spread mask else spread

/-- The mode that one clause makes of another mode. -/
def clauseMode? (mask old : Nat) (clause : Bytes) : Option Nat :=
  let who := clause.takeWhile fun b => b ∈ [0x75, 0x67, 0x6F, 0x61]
  match clause.drop who.length with
  | sign :: letters =>
    let bits := spreadRights mask who (rightBits letters)
    if !letters.all fun b => b ∈ [0x72, 0x77, 0x78, 0x58, 0x73, 0x74] then none
    else if sign = 0x2B then some (Nat.lor old bits)
    else if sign = 0x2D then some (old - Nat.land old bits)
    else if sign = 0x3D then some (old - Nat.land old (spreadRights 0 who 7) + bits)
    else none
  | [] => none

/-- The mode that a word makes of another one: octal digits, or clauses between commas. -/
def modeOf? (mask : Nat) (word : Bytes) (old : Nat) : Option Nat :=
  if !word.isEmpty && word.all fun b => 0x30 ≤ b && b ≤ 0x37 then some (octalValue word)
  else (partsAt (· = 0x2C) word).foldlM (clauseMode? mask) old

/-- A mode in letters, for those whose bits begin at `shift`. -/
def rightLetters (mode shift : Nat) : Bytes :=
  let bit (letter : String) (n : Nat) : Bytes := if Nat.testBit mode (shift + n) then ascii letter else []
  bit "r" 2 ++ bit "w" 1 ++ bit "x" 0

/-- A mode in letters, for the owner, the group and all others; the bits above the rights show where the
right to execute would stand. -/
def modeLetters (mode : Nat) : Bytes :=
  let part (shift special : Nat) (letter without : String) : Bytes :=
    let bit (b : Nat) (letter : String) : Bytes := ascii (if Nat.testBit mode (shift + b) then letter else "-")
    bit 2 "r" ++ bit 1 "w" ++
      if Nat.testBit mode special then bit 0 letter |>.map fun b => if b = 0x2D then (ascii without).headD b else b
      else bit 0 "x"
  part 6 11 "s" "S" ++ part 3 10 "s" "S" ++ part 0 9 "t" "T"

/-- A mode in digits and in letters. -/
def modeText (mode : Nat) : Bytes :=
  let digits := digitsIn 8 false mode
  List.replicate (4 - digits.length) 0x30 ++ digits ++ ascii " (" ++ modeLetters mode ++ ascii ")"

end ClockWarden.Rehearsal
