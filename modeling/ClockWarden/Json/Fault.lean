import ClockWarden.Decimal.Shortest
import ClockWarden.Text.Quoted

/-! What a JSON text is refused for, and where. A fault is found with some of the text still unread,
and that fixes its position: lines are counted by the line feeds before it, columns by the bytes after
the last of these. A fault of the value as a whole has no position. -/

namespace ClockWarden.Json

/-- A number as it stands in a text: what fits 64 bits is an integer, all else is rounded. -/
inductive Number where
  | natural (n : Nat)
  | negative (n : Nat)
  | floating (isNegative : Bool) (magnitude : Decimal.Binary64)
deriving DecidableEq

/-- The text of a number in a message. -/
def Number.text : Number → String
  | .natural n => toString n
  | .negative n => "-" ++ toString n
  | .floating isNegative magnitude =>
    (if isNegative then "-" else "") ++ Decimal.text magnitude

/-- What stands in a text where something else was expected. -/
inductive Found where
  | null
  | boolean (b : Bool)
  | number (n : Number)
  | string (s : String)
  | list
  | object
deriving DecidableEq

/-- The words for what was found. -/
def Found.text : Found → String
  | .null => "null"
  | .boolean b => "boolean `" ++ toString b ++ "`"
  | .number (.floating isNegative magnitude) =>
    "floating point `" ++ (Number.floating isNegative magnitude).text ++ "`"
  | .number n => "integer `" ++ n.text ++ "`"
  | .string s => "string " ++ Text.quoted s
  | .list => "sequence"
  | .object => "map"

/-- Why a text was refused: its form is wrong, it ends too early, or it says something else than was
asked for. -/
inductive Cause where
  | expectedValue
  | expectedWord
  | expectedColon
  | expectedCommaOrListEnd
  | expectedCommaOrObjectEnd
  | expectedKey
  | commaBeforeEnd
  | extraCharacters
  | badNumber
  | numberTooLarge
  | badEscape
  | loneSurrogate
  | unfinishedSurrogatePair
  | badCodePoint
  | controlCharacter
  | endInValue
  | endInString
  | endInObject
  | endInList
  | wrongType (found : Found) (expected : String)
  | wrongValue (found : Number) (expected : String)
  | wrongLength (length : Nat) (expected : String)
  | missingField (name : String)
  | duplicateField (name : String)
  | unknownVariant (name expected : String)
  | refused (message : String)
deriving DecidableEq

/-- The kinds of fault that callers tell apart. -/
inductive Category where
  | form
  | data
  | ending
deriving DecidableEq, Repr

namespace Cause

def category : Cause → Category
  | .endInValue | .endInString | .endInObject | .endInList => .ending
  | .wrongType .. | .wrongValue .. | .wrongLength .. | .missingField _ | .duplicateField _
  | .unknownVariant .. | .refused _ => .data
  | _ => .form

/-- The words of a cause. -/
def message : Cause → String
  | .expectedValue => "expected value"
  | .expectedWord => "expected ident"
  | .expectedColon => "expected `:`"
  | .expectedCommaOrListEnd => "expected `,` or `]`"
  | .expectedCommaOrObjectEnd => "expected `,` or `\x7d`"
  | .expectedKey => "key must be a string"
  | .commaBeforeEnd => "trailing comma"
  | .extraCharacters => "trailing characters"
  | .badNumber => "invalid number"
  | .numberTooLarge => "number out of range"
  | .badEscape => "invalid escape"
  | .loneSurrogate => "lone leading surrogate in hex escape"
  | .unfinishedSurrogatePair => "unexpected end of hex escape"
  | .badCodePoint => "invalid unicode code point"
  | .controlCharacter => "control character (\\u0000-\\u001F) found while parsing a string"
  | .endInValue => "EOF while parsing a value"
  | .endInString => "EOF while parsing a string"
  | .endInObject => "EOF while parsing an object"
  | .endInList => "EOF while parsing a list"
  | .wrongType found expected => "invalid type: " ++ found.text ++ ", expected " ++ expected
  | .wrongValue found expected =>
    "invalid value: integer `" ++ found.text ++ "`, expected " ++ expected
  | .wrongLength length expected =>
    "invalid length " ++ toString length ++ ", expected " ++ expected
  | .missingField name => "missing field `" ++ name ++ "`"
  | .duplicateField name => "duplicate field `" ++ name ++ "`"
  | .unknownVariant name expected => "unknown variant `" ++ name ++ "`, expected " ++ expected
  | .refused message => message

end Cause

/-- A member of the outermost object or list. -/
inductive Place where
  | key (name : String)
  | index (n : Nat)
deriving DecidableEq, Repr

def Place.text : Place → String
  | .key name => name
  | .index n => "[" ++ toString n ++ "]"

/-- A refusal: its cause, the text that was still unread, if the fault has a position, and the member
inside which it was found, if any. -/
structure Fault where
  cause : Cause
  unread : Option Bytes
  place : Option Place
deriving DecidableEq

namespace Fault

/-- A fault found with `rest` unread. -/
def before (cause : Cause) (rest : Bytes) : Fault := ⟨cause, some rest, none⟩

/-- A fault found in the next byte, which counts as read if there is one. -/
def atNext (cause : Cause) (rest : Bytes) : Fault := ⟨cause, some rest.tail, none⟩

/-- A fault without a position. -/
def unplaced (cause : Cause) : Fault := ⟨cause, none, none⟩

/-- Line and column of the fault in the whole text. -/
def position (fault : Fault) (text : Bytes) : Nat × Nat :=
  match fault.unread with
  | none => (0, 0)
  | some unread =>
    let read := text.take (text.length - unread.length)
    (read.count 0x0A + 1, (read.reverse.takeWhile (· ≠ 0x0A)).length)

/-- The words of a fault in a text. -/
def message (fault : Fault) (text : Bytes) : String :=
  let (line, column) := fault.position text
  if line = 0 then fault.cause.message
  else
    fault.cause.message ++ " at line " ++ toString line ++ " column " ++ toString column

/-- The words of a fault, with the member it was found in. -/
def placedMessage (fault : Fault) (text : Bytes) : String :=
  match fault.place with
  | none => fault.message text
  | some place => place.text ++ ": " ++ fault.message text

end Fault

/-- What a reader gives: a value and the unread text, or a fault. -/
abbrev Reading (α : Type) := Except Fault (α × Bytes)

end ClockWarden.Json
