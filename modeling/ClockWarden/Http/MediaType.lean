import ClockWarden.Text.Utf8

/-! Media types: a type and a subtype with a slash between them, a suffix of the subtype behind its
last plus, and parameters behind semicolons. A reader takes parameters with or without quotes, blanks
in front of them, and a semicolon at the end. -/

namespace ClockWarden.Http

/-- A media type without its parameters. -/
structure MediaType where
  type : Bytes
  subtype : Bytes
  suffix : Option Bytes
deriving DecidableEq

namespace MediaType

/-- The letters, digits and marks that names are made of. -/
def isToken (b : UInt8) : Bool :=
  (0x30 ≤ b && b ≤ 0x39) || (0x41 ≤ b && b ≤ 0x5A) || (0x61 ≤ b && b ≤ 0x7A) ||
    b ∈ [0x21, 0x23, 0x24, 0x25, 0x26, 0x27, 0x2B, 0x2D, 0x2E, 0x5E, 0x5F, 0x60, 0x7C, 0x7E]

def slash : UInt8 := 0x2F
def semicolon : UInt8 := 0x3B
def plus : UInt8 := 0x2B
def quote : UInt8 := 0x22
def blank : UInt8 := 0x20
def equals : UInt8 := 0x3D

/-- What a reader of parameters is within. -/
inductive Within where
  /-- In front of a name. -/
  | start
  /-- A name that has begun. -/
  | name
  /-- A value of which nothing has come. -/
  | value
  /-- A value without quotes. -/
  | bare
  /-- A value between quotes of which nothing has come. -/
  | opened
  /-- A value between quotes. -/
  | quoted
  /-- What follows a value between quotes. -/
  | closed
deriving DecidableEq

/-- Takes one byte of the parameters, unless it cannot stand where it does. -/
def Within.step (w : Within) (b : UInt8) : Option Within :=
  match w with
  | .start => if b = blank then some .start else if isToken b then some .name else none
  | .name => if isToken b then some .name else if b = equals then some .value else none
  | .value => if b = quote then some .opened else if isToken b then some .bare else none
  | .bare => if isToken b then some .bare else if b = semicolon then some .start else none
  | .opened => if 31 < b ∧ b ≠ 127 then some .quoted else none
  | .quoted =>
    if b = quote then some .closed else if 31 < b ∧ b ≠ 127 then some .quoted else none
  | .closed => if b = semicolon then some .start else if b = blank then some .closed else none

/-- Whether the parameters may end here. -/
def Within.mayEnd : Within → Bool
  | .start | .value | .bare | .closed => true
  | .name | .opened | .quoted => false

/-- Whether parameters, behind their first semicolon, have the right form. -/
def areParameters (text : Bytes) : Bool :=
  match text.foldlM Within.step .start with
  | some w => w.mayEnd
  | none => false

/-- A byte in lower case. -/
def lower (b : UInt8) : UInt8 := if 0x41 ≤ b ∧ b ≤ 0x5A then b + 0x20 else b

/-- The parts of a subtype on both sides of its last plus; one at its front parts nothing. -/
def splitSuffix (text : Bytes) : Bytes × Option Bytes :=
  let suffix := (text.reverse.takeWhile (· ≠ plus)).reverse
  let front := text.take (text.length - suffix.length)
  if front.length < 2 then (text, none) else (front.dropLast, some suffix)

/-- The media type that a text tells, in lower case. -/
def ofBytes? (text : Bytes) : Option MediaType :=
  let type := text.takeWhile isToken
  match text.dropWhile isToken with
  | [] => none
  | b :: rest =>
    if b ≠ slash ∨ type.isEmpty then none
    else
      let name := rest.takeWhile isToken
      let (subtype, suffix) := splitSuffix (name.map lower)
      let found : MediaType := ⟨type.map lower, subtype, suffix⟩
      match rest.dropWhile isToken with
      | [] => some found
      | c :: parameters =>
        if c = semicolon ∧ !name.isEmpty ∧ areParameters parameters then some found else none

def application : Bytes := Utf8.encode "application"
def json : Bytes := Utf8.encode "json"

/-- Whether a media type stands for JSON, by its subtype or by its suffix. -/
def isJson (m : MediaType) : Bool :=
  m.type = application && (m.subtype = json || m.suffix = some json)

end MediaType

end ClockWarden.Http
