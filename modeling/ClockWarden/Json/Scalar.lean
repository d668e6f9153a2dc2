import ClockWarden.Json.Skip

/-! Readers for single values of a known type. Each passes over white space, and where the text says
something of another type, the fault names what was found and what was expected. -/

namespace ClockWarden.Json

/-- The fault of a text whose next value, not preceded by white space, is not of the expected type.
Lists and objects are left unread. -/
def wrongType (expected : String) : Bytes → Fault
  | [] => .before .endInValue []
  | b :: rest =>
    let found (what : Found) : Except Fault Bytes → Fault
      | .error fault => fault
      | .ok after => .before (.wrongType what expected) after
    if b = 0x6E then found .null (word nullTail rest)
    else if b = 0x74 then found (.boolean true) (word trueTail rest)
    else if b = 0x66 then found (.boolean false) (word falseTail rest)
    else if startsNumber b then
      match number (b :: rest) with
      | .error fault => fault
      | .ok (n, after) => .before (.wrongType (.number n) expected) after
    else if b = 0x22 then
      match literalText rest with
      | .error fault => fault
      | .ok (s, after) => .before (.wrongType (.string s) expected) after
    else if b = 0x5B then .before (.wrongType .list expected) (b :: rest)
    else if b = 0x7B then .before (.wrongType .object expected) (b :: rest)
    else .atNext .expectedValue (b :: rest)

/-- Reads a string, known in messages as `expected`. -/
def stringAs (expected : String) (text : Bytes) : Reading String :=
  match skipBlanks text with
  | [] => .error (.before .endInValue [])
  | b :: rest =>
    if b = 0x22 then literalText rest else .error (wrongType expected (b :: rest))

/-- Reads a string. -/
def string : Bytes → Reading String := stringAs "a string"

/-- Reads a string that `convert` takes further. -/
def stringWith {α : Type} (expected : String) (convert : String → Except String α) (text : Bytes) :
    Reading α :=
  match stringAs expected text with
  | .error fault => .error fault
  | .ok (s, rest) =>
    match convert s with
    | .ok a => .ok (a, rest)
    | .error message => .error (.before (.refused message) rest)

/-- Reads a truth value. -/
def boolean (text : Bytes) : Reading Bool :=
  match skipBlanks text with
  | [] => .error (.before .endInValue [])
  | b :: rest =>
    if b = 0x74 then (word trueTail rest).map (true, ·)
    else if b = 0x66 then (word falseTail rest).map (false, ·)
    else .error (wrongType "a boolean" (b :: rest))

/-- Reads a number below `2 ^ width`. -/
def unsigned (width : Nat) (text : Bytes) : Reading Nat :=
  let expected := "u" ++ toString width
  match skipBlanks text with
  | [] => .error (.before .endInValue [])
  | b :: rest =>
    if startsNumber b then
      match number (b :: rest) with
      | .error fault => .error fault
      | .ok (.natural n, after) =>
        if n < Nat.pow 2 width then .ok (n, after)
        else .error (.before (.wrongValue (.natural n) expected) after)
      | .ok (.negative n, after) => .error (.before (.wrongValue (.negative n) expected) after)
      | .ok (n, after) => .error (.before (.wrongType (.number n) expected) after)
    else .error (wrongType expected (b :: rest))

/-- Reads `null` where a value means nothing beyond being there. -/
def unit (text : Bytes) : Reading Unit :=
  match skipBlanks text with
  | [] => .error (.before .endInValue [])
  | b :: rest =>
    if b = 0x6E then (word nullTail rest).map ((), ·)
    else .error (wrongType "unit" (b :: rest))

/-- Reads `null` or a value. -/
def optional {α : Type} (read : Bytes → Reading α) (text : Bytes) : Reading (Option α) :=
  match skipBlanks text with
  | 0x6E :: rest => (word nullTail rest).map (none, ·)
  | text =>
    match read text with
    | .error fault => .error fault
    | .ok (a, rest) => .ok (some a, rest)

/-- Reads the colon between a key and its value. -/
def colon (text : Bytes) : Except Fault Bytes :=
  match skipBlanks text with
  | [] => .error (.before .endInObject [])
  | b :: rest => if b = 0x3A then .ok rest else .error (.atNext .expectedColon (b :: rest))

/-- Reads the only key of an object after its opening brace. -/
def soleKey (text : Bytes) : Reading String :=
  match skipBlanks text with
  | [] => .error (.before .endInObject [])
  | b :: rest =>
    if b = 0x22 then literalText rest
    else if b = 0x7D then .error (.atNext .expectedValue (b :: rest))
    else .error (.atNext .expectedKey (b :: rest))

/-- Reads one of some names, written as a string or as the only key of an object over `null`. -/
def variant {α : Type} (names : List (String × α)) (text : Bytes) : Except Fault (α × Bytes) :=
  let expected := " or ".intercalate (names.map fun (name, _) => "`" ++ name ++ "`")
  let choose (s : String) (rest : Bytes) : Except Fault (α × Bytes) :=
    match names.lookup s with
    | some a => .ok (a, rest)
    | none => .error (.before (.unknownVariant s expected) rest)
  match skipBlanks text with
  | [] => .error (.before .endInValue [])
  | b :: rest =>
    if b = 0x22 then do
      let (s, rest) ← literalText rest
      choose s rest
    else if b = 0x7B then do
      let (s, rest) ← soleKey rest
      let (a, rest) ← choose s rest
      let rest ← colon rest
      let (_, rest) ← unit rest
      match skipBlanks rest with
      | [] => .error (.before .endInObject [])
      | c :: after =>
        if c = 0x7D then .ok (a, after) else .error (.before .expectedValue (c :: after))
    else .error (.atNext .expectedValue (b :: rest))

/-- Reads a value that fills the whole text but for white space. -/
def whole {α : Type} (read : Bytes → Reading α) (text : Bytes) : Except Fault α :=
  match read text with
  | .error fault => .error fault
  | .ok (a, rest) =>
    match skipBlanks rest with
    | [] => .ok a
    | rest => .error (.atNext .extraCharacters rest)

end ClockWarden.Json
