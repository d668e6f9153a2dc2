import ClockWarden.Json.Literal
import ClockWarden.Json.Number

/-! Passing over a value that nobody asked for. Its shape is checked and nothing else: numbers may have
any size, escapes may spell halves of surrogate pairs, and values may nest to any depth, as the lists
and objects under way are kept on a stack. -/

namespace ClockWarden.Json

def isBlank (b : UInt8) : Bool := b = 0x20 || b = 0x0A || b = 0x09 || b = 0x0D

/-- The text without the white space at its front. -/
def skipBlanks (text : Bytes) : Bytes := text.dropWhile isBlank

/-- Reads the letters of a word; the first wrong one counts as read. -/
def word : Bytes → Bytes → Except Fault Bytes
  | [], text => .ok text
  | _ :: _, [] => .error (.before .endInValue [])
  | w :: ws, b :: rest => if w = b then word ws rest else .error (.before .expectedWord rest)

/-- The letters of `null` after the first. -/
def nullTail : Bytes := [0x75, 0x6C, 0x6C]
/-- The letters of `true` after the first. -/
def trueTail : Bytes := [0x72, 0x75, 0x65]
/-- The letters of `false` after the first. -/
def falseTail : Bytes := [0x61, 0x6C, 0x73, 0x65]

/-- What a value stands in. -/
inductive Frame where
  | list
  | object
deriving DecidableEq

namespace Frame

/-- The byte that ends a frame. -/
def close : Frame → UInt8
  | .list => 0x5D
  | .object => 0x7D

/-- The fault of a text that ends in a frame. -/
def ending : Frame → Cause
  | .list => .endInList
  | .object => .endInObject

/-- The fault of a value that nothing separates from the one before. -/
def separator : Frame → Cause
  | .list => .expectedCommaOrListEnd
  | .object => .expectedCommaOrObjectEnd

end Frame

/-- What comes next while values are passed over. -/
inductive Awaited where
  /-- A value. -/
  | value
  /-- The first element or key of the innermost frame, or its end. -/
  | first
  /-- What follows a value: a comma or an end. -/
  | next
deriving DecidableEq

/-- Passes over the key of a member and its colon. -/
def skipKey (text : Bytes) : Except Fault Bytes :=
  match skipBlanks text with
  | [] => .error (.before .endInObject [])
  | b :: rest =>
    if b = 0x22 then do
      let rest ← skipLiteral rest
      match skipBlanks rest with
      | [] => .error (.before .endInObject [])
      | c :: after => if c = 0x3A then .ok after else .error (.atNext .expectedColon (c :: after))
    else .error (.atNext .expectedKey (b :: rest))

/-- Passes over a value that is no list and no object, whose first byte is `b`. -/
def skipScalar (b : UInt8) (rest : Bytes) : Except Fault Bytes :=
  if b = 0x6E then word nullTail rest
  else if b = 0x74 then word trueTail rest
  else if b = 0x66 then word falseTail rest
  else if b = 0x22 then skipLiteral rest
  else if startsNumber b then skipNumber (b :: rest)
  else .error (.atNext .expectedValue (b :: rest))

/-- Goes on in the frames under way, innermost first. A round that reads nothing is followed by one
that reads a byte, so twice as many rounds as there are bytes are enough, and one to stop. -/
def skipRounds : Nat → Awaited → List Frame → Bytes → Except Fault Bytes
  | 0, _, _, _ => .error (.before .endInValue [])
  | rounds + 1, .value, frames, text =>
    match skipBlanks text with
    | [] => .error (.before .endInValue [])
    | b :: rest =>
      if b = 0x5B then skipRounds rounds .first (.list :: frames) rest
      else if b = 0x7B then skipRounds rounds .first (.object :: frames) rest
      else
        match skipScalar b rest with
        | .error fault => .error fault
        | .ok rest => skipRounds rounds .next frames rest
  | rounds + 1, .first, frame :: frames, text =>
    match skipBlanks text with
    | [] => .error (.before frame.ending [])
    | b :: rest =>
      if b = frame.close then skipRounds rounds .next frames rest
      else
        match frame with
        | .list => skipRounds rounds .value (.list :: frames) (b :: rest)
        | .object =>
          match skipKey (b :: rest) with
          | .error fault => .error fault
          | .ok rest => skipRounds rounds .value (.object :: frames) rest
  | rounds + 1, .next, frame :: frames, text =>
    match skipBlanks text with
    | [] => .error (.before frame.ending [])
    | b :: rest =>
      if b = 0x2C then
        match frame with
        | .list => skipRounds rounds .value (.list :: frames) rest
        | .object =>
          match skipKey rest with
          | .error fault => .error fault
          | .ok rest => skipRounds rounds .value (.object :: frames) rest
      else if b = frame.close then skipRounds rounds .next frames rest
      else .error (.atNext frame.separator (b :: rest))
  | _ + 1, _, [], text => .ok text

/-- Passes over one value. -/
def skipValue (text : Bytes) : Except Fault Bytes :=
  skipRounds (2 * text.length + 2) .value [] text

end ClockWarden.Json
