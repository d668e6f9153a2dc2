import ClockWarden.Text.Utf8

/-! Texts without what steers a terminal: sequences that an escape character opens are left out, and so
are all other controls but white space. A terminal reads bytes, and some of the bytes within a character
can end a sequence. -/

namespace ClockWarden.Text

/-- Where a terminal stands within a text. -/
inductive TerminalMode where
  | ground
  /-- Behind an escape character. -/
  | escape
  /-- Behind an escape character and a sign that wants another. -/
  | escapeTail
  /-- Within a control sequence. -/
  | sequence
  /-- At the beginning of a command for a device. -/
  | deviceEntry
  /-- Within the parameters of a command for a device. -/
  | deviceParameters
  /-- Behind a sign in a command for a device. -/
  | deviceTail
  /-- Within a text for a device, or within a text that is ignored. -/
  | device
  /-- Within a title. -/
  | title
deriving DecidableEq

/-- White space that a terminal is sent as it is. -/
def isPlainBlank (b : UInt8) : Bool := b ∈ [0x20, 0x09, 0x0A, 0x0C, 0x0D]

/-- Whether a byte begins a character of several bytes. -/
def isLead (b : UInt8) : Bool := 0xC2 ≤ b && b ≤ 0xF4

/-- Whether a byte goes on with a character. -/
def isTail (b : UInt8) : Bool := 0x80 ≤ b && b ≤ 0xBF

namespace TerminalMode

/-- What is left of a mode after a byte. -/
def next (mode : TerminalMode) (b : UInt8) : TerminalMode :=
  if b = 0x1B then .escape
  else if b = 0x18 ∨ b = 0x1A then .ground
  else
    match mode with
    | .ground => .ground
    | .escape =>
      if b < 0x20 ∨ 0x7F ≤ b then .escape
      else if b < 0x30 then .escapeTail
      else if b = 0x5B then .sequence
      else if b = 0x5D then .title
      else if b = 0x50 then .deviceEntry
      else if b ∈ [0x58, 0x5E, 0x5F] then .device
      else .ground
    | .escapeTail => if 0x30 ≤ b ∧ b < 0x7F then .ground else .escapeTail
    | .sequence => if 0x40 ≤ b ∧ b < 0x7F then .ground else .sequence
    | .deviceEntry =>
      if b < 0x20 ∨ 0x7F ≤ b then .deviceEntry
      else if b < 0x30 then .deviceTail
      else if b < 0x40 then .deviceParameters
      else .device
    | .deviceParameters =>
      if b < 0x20 ∨ 0x7F ≤ b then .deviceParameters
      else if b < 0x30 then .deviceTail
      else if b < 0x3C then .deviceParameters
      else .device
    | .deviceTail => if 0x30 ≤ b ∧ b < 0x7F then .device else .deviceTail
    | .device => if b = 0x9C then .ground else .device
    | .title => if b = 0x07 then .ground else .title

/-- Whether a byte shows something, seen in a mode. White space gets through sequences. -/
def shows (mode : TerminalMode) (b : UInt8) : Bool :=
  match mode with
  | .ground => (0x20 ≤ b && b < 0x7F) || isLead b || isPlainBlank b
  | .escape | .escapeTail | .sequence => b < 0x20 && isPlainBlank b
  | .deviceEntry | .deviceParameters | .deviceTail | .device | .title => false

end TerminalMode

/-- A terminal in the middle of a text: its mode, and whether it is showing a stretch of text. -/
structure Terminal where
  mode : TerminalMode := .ground
  isShowing : Bool := false
deriving DecidableEq

namespace Terminal

/-- Takes a byte of which a stretch of text may begin, and tells whether it is kept. A terminal that
forgets is out of every sequence when it shows something. -/
def begin (forgets : Bool) (mode : TerminalMode) (b : UInt8) : Terminal × Bool :=
  if mode.shows b then (⟨if forgets then .ground else mode, true⟩, true)
  else (⟨mode.next b, false⟩, false)

/-- Takes a byte and tells whether it is kept. -/
def feed (forgets : Bool) (t : Terminal) (b : UInt8) : Terminal × Bool :=
  if t.isShowing then
    if isLead b || isTail b then (⟨.ground, true⟩, true)
    else if TerminalMode.ground.shows b then (t, true)
    else begin forgets t.mode b
  else begin forgets t.mode b

/-- The bytes that a terminal shows. -/
def kept (forgets : Bool) : Terminal → Bytes → Bytes
  | _, [] => []
  | t, b :: rest =>
    let (t, isKept) := t.feed forgets b
    if isKept then b :: kept forgets t rest else kept forgets t rest

end Terminal

/-- A text between marks that a terminal takes for a change of its style. The mark behind it ends
whatever sequence the text has left open. -/
def marked (text : String) : String := "\x1b[1m" ++ text ++ "\x1b[0m"

/-- The text without what steers a terminal. -/
def withoutControls (text : String) : String :=
  Utf8.decodeLossy (Terminal.kept true {} (Utf8.encode text))

/-- The text as it is printed for somebody who is no terminal. White space within a sequence does not
end the sequence for good: it goes on at the next control. -/
def printedWithoutControls (text : String) : String :=
  Utf8.decodeLossy (Terminal.kept false {} (Utf8.encode text))

end ClockWarden.Text
