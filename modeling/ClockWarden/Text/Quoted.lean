import ClockWarden.Text.Printable
import ClockWarden.Text.Utf8

/-! Text and bytes between double quotes, as error reports show them. Quotes and backslashes are
escaped, line breaks and the like have a letter each, and any other character that shows nothing of
its own is written by its code point in braces. Bytes that are no text are written in hexadecimal. -/

namespace ClockWarden.Text

/-- One character of a quoted text. -/
def quotedChar (c : Char) : List Char :=
  match c with
  | '"' => ['\\', '"']
  | '\\' => ['\\', '\\']
  | '\n' => ['\\', 'n']
  | '\r' => ['\\', 'r']
  | '\t' => ['\\', 't']
  | '\x00' => ['\\', '0']
  | c =>
    if isPrintable c then [c]
    else ['\\', 'u', '\x7b'] ++ Nat.toDigits 16 c.toNat ++ ['\x7d']

/-- The text between double quotes. -/
def quoted (text : String) : String :=
  String.ofList ('"' :: text.toList.flatMap quotedChar ++ ['"'])

/-- A byte that belongs to no character, as two upper-case digits. -/
def quotedByte (b : UInt8) : List Char :=
  ['\\', 'x', (Nat.digitChar (b.toNat / 16)).toUpper, (Nat.digitChar (b.toNat % 16)).toUpper]

/-- The bytes between double quotes: what is text as text, every other byte by itself. -/
def quotedBytes (bytes : Bytes) : String :=
  let piece : Utf8.Piece → List Char
    | .char c => quotedChar c
    | .stray run => run.flatMap quotedByte
  String.ofList ('"' :: (Utf8.scan bytes).flatMap piece ++ ['"'])

end ClockWarden.Text
