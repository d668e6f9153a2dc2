/-! Internet addresses with a port. An address of the older kind has four numbers, one of the newer
kind eight groups, of which one run of zeros may be left out; around the newer kind stand brackets,
with the number of a scope inside if there is one. -/

namespace ClockWarden.Net

/-- An internet address. -/
inductive Address where
  | v4 (a b c d : UInt8)
  | v6 (groups : List UInt16) (scope : UInt32)
deriving DecidableEq, Repr

/-- An address and a port. -/
structure SocketAddress where
  address : Address
  port : UInt16
deriving DecidableEq, Repr

/-- The value of a digit to a base of up to sixteen. -/
def digitValue? (base : Nat) (c : Char) : Option Nat :=
  let value : Option Nat :=
    if '0' ≤ c ∧ c ≤ '9' then some (c.toNat - 48)
    else if 'a' ≤ c ∧ c ≤ 'f' then some (c.toNat - 87)
    else if 'A' ≤ c ∧ c ≤ 'F' then some (c.toNat - 55)
    else none
  value.bind fun v => if v < base then some v else none

/-- The digits at the front of a text, and the text behind them. -/
def takeDigits (base : Nat) : List Char → List Nat × List Char
  | [] => ([], [])
  | c :: rest =>
    match digitValue? base c with
    | none => ([], c :: rest)
    | some v => let (values, after) := takeDigits base rest; (v :: values, after)

/-- The number that digits make, if it is below a bound. -/
def numberBelow? (base bound : Nat) (digits : List Nat) : Option Nat :=
  let value := digits.foldl (fun n d => n * base + d) 0
  if value < bound then some value else none

/-- Reads one of the four numbers of an address; it has no leading zeros. -/
def octet? (text : List Char) : Option (UInt8 × List Char) :=
  let (digits, rest) := takeDigits 10 text
  if digits.isEmpty ∨ 3 < digits.length ∨ (digits.head? = some 0 ∧ 1 < digits.length) then none
  else (numberBelow? 10 256 digits).map fun n => (UInt8.ofNat n, rest)

/-- Reads a given character. -/
def char? (c : Char) : List Char → Option (List Char)
  | [] => none
  | d :: rest => if d = c then some rest else none

/-- Reads four numbers with points between them. -/
def quad? (text : List Char) : Option ((UInt8 × UInt8 × UInt8 × UInt8) × List Char) := do
  let (a, rest) ← octet? text
  let (b, rest) ← octet? (← char? '.' rest)
  let (c, rest) ← octet? (← char? '.' rest)
  let (d, rest) ← octet? (← char? '.' rest)
  pure ((a, b, c, d), rest)

/-- Reads a group of up to four hexadecimal digits. -/
def group? (text : List Char) : Option (UInt16 × List Char) :=
  let (digits, rest) := takeDigits 16 text
  if digits.isEmpty ∨ 4 < digits.length then none
  else (numberBelow? 16 65536 digits).map fun n => (UInt16.ofNat n, rest)

/-- Two groups made of four numbers. -/
def groupsOfQuad (q : UInt8 × UInt8 × UInt8 × UInt8) : List UInt16 :=
  [UInt16.ofNat (q.1.toNat * 256 + q.2.1.toNat), UInt16.ofNat (q.2.2.1.toNat * 256 + q.2.2.2.toNat)]

/-- Reads up to `limit` groups with colons between them, after `groups`. Four numbers may stand for the
last two groups; the truth value tells whether they do. -/
def groups (groups : List UInt16) : Nat → List Char → (List UInt16 × Bool) × List Char
  | 0, text => ((groups, false), text)
  | limit + 1, text =>
    let start := if groups.isEmpty then some text else char? ':' text
    match (if 0 < limit then start.bind quad? else none) with
    | some (q, rest) => ((groups ++ groupsOfQuad q, true), rest)
    | none =>
      match start.bind group? with
      | some (g, rest) => ClockWarden.Net.groups (groups ++ [g]) limit rest
      | none => ((groups, false), text)

/-- Reads eight groups, or fewer with two colons where zeros are left out. -/
def eightGroups? (text : List Char) : Option (List UInt16 × List Char) :=
  let ((head, hasQuad), rest) := groups [] 8 text
  if head.length = 8 then some (head, rest)
  else if hasQuad then none
  else do
    let rest ← char? ':' (← char? ':' rest)
    let ((tail, _), rest) := groups [] (7 - head.length) rest
    pure (head ++ List.replicate (8 - head.length - tail.length) 0 ++ tail, rest)

/-- Reads a number below a bound; zeros may stand in front of it. -/
def bounded? (bound : Nat) (text : List Char) : Option (Nat × List Char) :=
  let (digits, rest) := takeDigits 10 text
  if digits.isEmpty then none else (numberBelow? 10 bound digits).map (·, rest)

namespace SocketAddress

/-- Reads a colon and a port. -/
def port? (text : List Char) : Option (UInt16 × List Char) := do
  let (n, rest) ← bounded? 65536 (← char? ':' text)
  pure (UInt16.ofNat n, rest)

/-- Reads an address of the older kind. -/
def older? (text : List Char) : Option (SocketAddress × List Char) := do
  let ((a, b, c, d), rest) ← quad? text
  let (port, rest) ← port? rest
  pure (⟨.v4 a b c d, port⟩, rest)

/-- Reads an address of the newer kind. -/
def newer? (text : List Char) : Option (SocketAddress × List Char) := do
  let (groups, rest) ← eightGroups? (← char? '[' text)
  let (scope, rest) := ((char? '%' rest).bind (bounded? (Nat.pow 2 32))).getD (0, rest)
  let (port, rest) ← port? (← char? ']' rest)
  pure (⟨.v6 groups (UInt32.ofNat scope), port⟩, rest)

/-- The address that a text tells. -/
def ofText? (text : String) : Option SocketAddress :=
  match (older? text.toList).or (newer? text.toList) with
  | some (address, []) => some address
  | _ => none

end SocketAddress

/-- The length of the run of zeros at the front. -/
def zerosAhead (groups : List UInt16) : Nat := (groups.takeWhile (· = 0)).length

/-- The start and length of the longest run of zeros, of several the first. -/
def longestZeros (groups : List UInt16) : Nat × Nat :=
  (List.range groups.length).foldl (fun best start =>
    let length := zerosAhead (groups.drop start)
    if best.2 < length then (start, length) else best) (0, 0)

/-- Groups with colons between them. -/
def groupsText (groups : List UInt16) : String :=
  ":".intercalate (groups.map fun g => String.ofList (Nat.toDigits 16 g.toNat))

/-- Four numbers with points between them. -/
def quadText (a b c d : UInt8) : String :=
  toString a ++ "." ++ toString b ++ "." ++ toString c ++ "." ++ toString d

namespace Address

/-- The text of the groups of an address; one that stands for an address of the older kind ends in four
numbers. -/
def groupText (groups : List UInt16) : String :=
  match groups with
  | [0, 0, 0, 0, 0, 0xFFFF, x, y] =>
    "::ffff:" ++ quadText (UInt8.ofNat (x.toNat / 256)) (UInt8.ofNat (x.toNat % 256))
      (UInt8.ofNat (y.toNat / 256)) (UInt8.ofNat (y.toNat % 256))
  | groups =>
    let (start, length) := longestZeros groups
    if 1 < length then
      groupsText (groups.take start) ++ "::" ++ groupsText (groups.drop (start + length))
    else groupsText groups

/-- The text of an address. -/
def text : Address → String
  | .v4 a b c d => quadText a b c d
  | .v6 groups scope =>
    groupText groups ++ if scope = 0 then "" else "%" ++ toString scope

end Address

/-- The text of an address with its port. -/
def SocketAddress.text (s : SocketAddress) : String :=
  match s.address with
  | .v4 .. => s.address.text ++ ":" ++ toString s.port
  | .v6 .. => "[" ++ s.address.text ++ "]:" ++ toString s.port

end ClockWarden.Net
