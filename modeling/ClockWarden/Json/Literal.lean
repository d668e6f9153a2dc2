import ClockWarden.Json.Fault

/-! String literals: how a text is written between double quotes, and how a literal is read back.
Quotes, backslashes and controls are escaped when written; a reader also takes every other escape,
and joins the two halves of a surrogate pair. `skipLiteral` passes over a literal whose value nobody
wants and looks at its shape only. -/

namespace ClockWarden.Json

/-- A lower-case hexadecimal digit. -/
def hexDigit (n : Nat) : Char := Nat.digitChar n

/-- One character of a literal. -/
def literalChar (c : Char) : List Char :=
  if c = '"' then ['\\', '"']
  else if c = '\\' then ['\\', '\\']
  else if c = '\x08' then ['\\', 'b']
  else if c = '\t' then ['\\', 't']
  else if c = '\n' then ['\\', 'n']
  else if c = '\x0c' then ['\\', 'f']
  else if c = '\r' then ['\\', 'r']
  else if c.toNat < 0x20 then
    ['\\', 'u', '0', '0', hexDigit (c.toNat / 16), hexDigit (c.toNat % 16)]
  else [c]

/-- The literal of a text. -/
def literal (text : String) : String :=
  String.ofList ('"' :: text.toList.flatMap literalChar ++ ['"'])

/-- The value of a hexadecimal digit. -/
def hexValue? (b : UInt8) : Option Nat :=
  if 0x30 ≤ b ∧ b ≤ 0x39 then some (b.toNat - 0x30)
  else if 0x41 ≤ b ∧ b ≤ 0x46 then some (b.toNat - 0x41 + 10)
  else if 0x61 ≤ b ∧ b ≤ 0x66 then some (b.toNat - 0x61 + 10)
  else none

/-- The value of four hexadecimal digits. -/
def hexQuad? (a b c d : UInt8) : Option Nat := do
  let a ← hexValue? a
  let b ← hexValue? b
  let c ← hexValue? c
  let d ← hexValue? d
  pure (a * 4096 + b * 256 + c * 16 + d)

/-- The byte that a one-letter escape stands for. -/
def letterEscape? (b : UInt8) : Option UInt8 :=
  if b = 0x22 then some 0x22
  else if b = 0x5C then some 0x5C
  else if b = 0x2F then some 0x2F
  else if b = 0x62 then some 0x08
  else if b = 0x66 then some 0x0C
  else if b = 0x6E then some 0x0A
  else if b = 0x72 then some 0x0D
  else if b = 0x74 then some 0x09
  else none

/-- The bytes of a code point that is no surrogate, last first, before `read`. -/
def pushCodePoint (n : Nat) (read : Bytes) : Bytes :=
  (String.utf8EncodeChar (Char.ofNat n)).reverse ++ read

/-- Reads a literal after its opening quote: the bytes it spells and the text behind its closing
quote. `read` holds the bytes so far, last first. -/
def literalBytes (read : Bytes) : Bytes → Reading Bytes
  | [] => .error (.before .endInString [])
  | 0x22 :: rest => .ok (read.reverse, rest)
  | 0x5C :: [] => .error (.before .endInString [])
  | 0x5C :: 0x75 :: a :: b :: c :: d :: rest =>
    match hexQuad? a b c d with
    | none => .error (.before .badEscape rest)
    | some n =>
      if 0xDC00 ≤ n ∧ n ≤ 0xDFFF then .error (.before .loneSurrogate rest)
      else if n < 0xD800 ∨ 0xDFFF < n then literalBytes (pushCodePoint n read) rest
      else
        match rest with
        | [] => .error (.before .endInString [])
        | 0x5C :: [] => .error (.before .endInString [])
        | 0x5C :: 0x75 :: e :: f :: g :: h :: rest =>
          match hexQuad? e f g h with
          | none => .error (.before .badEscape rest)
          | some m =>
            if m < 0xDC00 ∨ 0xDFFF < m then .error (.before .loneSurrogate rest)
            else
              literalBytes
                (pushCodePoint (0x10000 + (n - 0xD800) * 1024 + (m - 0xDC00)) read) rest
        | 0x5C :: 0x75 :: _ => .error (.before .endInString [])
        | 0x5C :: _ :: rest => .error (.before .unfinishedSurrogatePair rest)
        | _ :: rest => .error (.before .unfinishedSurrogatePair rest)
  | 0x5C :: 0x75 :: _ => .error (.before .endInString [])
  | 0x5C :: e :: rest =>
    match letterEscape? e with
    | some b => literalBytes (b :: read) rest
    | none => .error (.before .badEscape rest)
  | b :: rest =>
    if b < 0x20 then .error (.before .controlCharacter rest) else literalBytes (b :: read) rest

/-- Reads a literal after its opening quote as text. Bytes that spell none are found at the end; then
as many bytes as were spelled behind the sound ones count as unread again. -/
def literalText (rest : Bytes) : Reading String :=
  match literalBytes [] rest with
  | .error fault => .error fault
  | .ok (bytes, after) =>
    match Utf8.decode? bytes with
    | some text => .ok (text, after)
    | none =>
      let unsound := bytes.length - Utf8.validLength bytes
      .error (.before .badCodePoint (rest.drop (rest.length - after.length - unsound)))

/-- Passes over a literal after its opening quote. -/
def skipLiteral : Bytes → Except Fault Bytes
  | [] => .error (.before .endInString [])
  | 0x22 :: rest => .ok rest
  | 0x5C :: [] => .error (.before .endInString [])
  | 0x5C :: 0x75 :: a :: b :: c :: d :: rest =>
    match hexQuad? a b c d with
    | none => .error (.before .badEscape rest)
    | some _ => skipLiteral rest
  | 0x5C :: 0x75 :: _ => .error (.before .endInString [])
  | 0x5C :: e :: rest =>
    match letterEscape? e with
    | some _ => skipLiteral rest
    | none => .error (.before .badEscape rest)
  | b :: rest =>
    if b < 0x20 then .error (.before .controlCharacter (b :: rest)) else skipLiteral rest

end ClockWarden.Json
