/-! Bytes and the text they spell. `encode` writes text as UTF-8, `decode?` reads bytes that are text
throughout, and `decodeLossy` reads any bytes, showing U+FFFD once for each maximal run of bytes that
begins a character without completing one. Reading is a fold over the bytes, `scan`, which keeps what
the character under way still needs. -/

namespace ClockWarden

/-- A string of bytes as the host passes it around; nothing says that it is text. -/
abbrev Bytes := List UInt8

namespace Utf8

/-- A character under way: its bytes so far, last first, the bits they hold, the range of the next
byte, and how many follow that one. -/
structure Pending where
  read : Bytes
  bits : Nat
  low : UInt8
  high : UInt8
  more : Nat
deriving DecidableEq

/-- A part of a byte string: a character, or a maximal run of bytes that spells none. -/
inductive Piece where
  | char (c : Char)
  | stray (bytes : Bytes)
deriving DecidableEq

namespace Piece

/-- The character, if the piece is one. -/
def char? : Piece → Option Char
  | .char c => some c
  | .stray _ => none

/-- What stands for the piece in a text. -/
def shown : Piece → Char
  | .char c => c
  | .stray _ => '\uFFFD'

end Piece

/-- Where a scan stands: the character under way, and the pieces found before it, last first. -/
structure Scan where
  pending : Option Pending
  found : List Piece

namespace Scan

/-- Takes `b` where a character may begin. The first byte of a character fixes its length, and bounds
the second so that no value has two spellings, none is a surrogate and none is beyond U+10FFFF. -/
def start (found : List Piece) (b : UInt8) : Scan :=
  let opens (bits : Nat) (low high : UInt8) (more : Nat) : Scan :=
    ⟨some ⟨[b], bits, low, high, more⟩, found⟩
  if b < 0x80 then ⟨none, .char (Char.ofNat b.toNat) :: found⟩
  else if b < 0xC2 then ⟨none, .stray [b] :: found⟩
  else if b < 0xE0 then opens (b.toNat - 0xC0) 0x80 0xBF 0
  else if b = 0xE0 then opens 0 0xA0 0xBF 1
  else if b = 0xED then opens 0xD 0x80 0x9F 1
  else if b < 0xF0 then opens (b.toNat - 0xE0) 0x80 0xBF 1
  else if b = 0xF0 then opens 0 0x90 0xBF 2
  else if b < 0xF4 then opens (b.toNat - 0xF0) 0x80 0xBF 2
  else if b = 0xF4 then opens 4 0x80 0x8F 2
  else ⟨none, .stray [b] :: found⟩

/-- Takes one byte; one that cannot continue the character under way ends it and begins anew. -/
def feed (s : Scan) (b : UInt8) : Scan :=
  match s.pending with
  | none => start s.found b
  | some p =>
    if p.low ≤ b ∧ b ≤ p.high then
      let bits := p.bits * 64 + (b.toNat - 0x80)
      match p.more with
      | 0 => ⟨none, .char (Char.ofNat bits) :: s.found⟩
      | more + 1 => ⟨some ⟨b :: p.read, bits, 0x80, 0xBF, more⟩, s.found⟩
    else start (.stray p.read.reverse :: s.found) b

/-- The pieces found, in order, once the bytes have ended. -/
def finish (s : Scan) : List Piece :=
  match s.pending with
  | none => s.found.reverse
  | some p => (.stray p.read.reverse :: s.found).reverse

end Scan

/-- The characters that the bytes spell and the runs between them that spell none. -/
def scan (bytes : Bytes) : List Piece :=
  (bytes.foldl Scan.feed ⟨none, []⟩).finish

/-- The text that the bytes spell, if they are text throughout. -/
def decode? (bytes : Bytes) : Option String :=
  let found := (scan bytes).map Piece.char?
  if found.all Option.isSome then some (String.ofList (found.filterMap id)) else none

/-- The text that the bytes spell, with U+FFFD for each run that spells no character. -/
def decodeLossy (bytes : Bytes) : String :=
  String.ofList ((scan bytes).map Piece.shown)

/-- The bytes of a text. -/
def encode (text : String) : Bytes :=
  text.toList.flatMap String.utf8EncodeChar

/-- How many bytes come before the first run that spells no character. -/
def validLength (bytes : Bytes) : Nat :=
  go (scan bytes) 0
where
  /-- Adds up the characters at the front. -/
  go : List Piece → Nat → Nat
    | .char c :: rest, n => go rest (n + c.utf8Size)
    | _, n => n

end Utf8

end ClockWarden
