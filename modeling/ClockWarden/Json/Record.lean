import ClockWarden.Json.Scalar

/-! Records: values with named fields, read from an object or from a list that holds the fields in
order. Keys that are no field are passed over, and no field may come twice. A record is read into a
draft, which is completed at the end. -/

namespace ClockWarden.Json

/-- A field of a record: whether a draft has it, and how it is read into a draft. -/
structure Field (σ : Type) where
  name : String
  isSet : σ → Bool
  read : σ → Bytes → Reading σ

/-- The fields of a record and what becomes of a draft: the record, or the name of a field that it
lacks. Where `allowsShort` holds, a list may end before the fields do. -/
structure Shape (σ α : Type) where
  name : String
  fields : List (Field σ)
  blank : σ
  complete : σ → Except String α
  allowsShort : Bool := false

namespace Shape

variable {σ α : Type}

/-- How messages describe the record. -/
def expected (shape : Shape σ α) : String := "struct " ++ shape.name

/-- Leaves an object after a fault between its members: its end is read if it comes next. -/
def leaveObject (text : Bytes) : Bytes :=
  match skipBlanks text with
  | 0x7D :: rest => rest
  | rest => rest

/-- Reads the value of a key, or passes over it if the key is no field. -/
def readMember (shape : Shape σ α) (draft : σ) (name : String) (text : Bytes) :
    Except Fault (σ × Bytes) :=
  let inside (fault : Fault) : Fault := { fault with place := some (.key name) }
  match shape.fields.find? (·.name == name) with
  | some field =>
    if field.isSet draft then .error (.before (.duplicateField name) (leaveObject text))
    else do
      let rest ← colon text
      (field.read draft rest).mapError inside
  | none => do
    let rest ← colon text
    let rest ← (skipValue rest).mapError inside
    pure (draft, rest)

/-- Reads the members of an object up to its end. Every round reads a byte. -/
def readMembers (shape : Shape σ α) : Nat → Bool → σ → Bytes → Reading σ
  | 0, _, _, text => .error (.before .endInObject text)
  | rounds + 1, isFirst, draft, text =>
    match skipBlanks text with
    | [] => .error (.before .endInObject [])
    | b :: rest =>
      if b = 0x7D then .ok (draft, b :: rest)
      else if b = 0x2C ∧ !isFirst then
        match skipBlanks rest with
        | [] => .error (.before .endInValue [])
        | c :: after =>
          if c = 0x22 then
            match literalText after with
            | .error fault => .error fault
            | .ok (name, rest) =>
              match shape.readMember draft name rest with
              | .error fault => .error fault
              | .ok (draft, rest) => readMembers shape rounds false draft rest
          else if c = 0x7D then .error (.atNext .commaBeforeEnd (c :: after))
          else .error (.atNext .expectedKey (c :: after))
      else if !isFirst then .error (.atNext .expectedCommaOrObjectEnd (b :: rest))
      else if b = 0x22 then
        match literalText rest with
        | .error fault => .error fault
        | .ok (name, rest) =>
          match shape.readMember draft name rest with
          | .error fault => .error fault
          | .ok (draft, rest) => readMembers shape rounds false draft rest
      else .error (.atNext .expectedKey (b :: rest))

/-- Reads a record after the brace that opens its object. -/
def readObject (shape : Shape σ α) (text : Bytes) : Reading α :=
  match shape.readMembers (text.length + 1) true shape.blank text with
  | .error fault => .error fault
  | .ok (draft, rest) =>
    match shape.complete draft with
    | .ok a => .ok (a, leaveObject rest)
    | .error name => .error (.before (.missingField name) (leaveObject rest))

/-- What a list must hold, for messages. -/
def expectedElements (shape : Shape σ α) : String :=
  let count := shape.fields.length
  shape.expected ++ " with " ++ toString count ++ (if count = 1 then " element" else " elements")

/-- Reads the fields of a list from the one with index `index` on. -/
def readElements (shape : Shape σ α) (index : Nat) (draft : σ) (text : Bytes) :
    List (Field σ) → Reading σ
  | [] => .ok (draft, text)
  | field :: fields =>
    match skipBlanks text with
    | [] => .error (.before .endInList [])
    | b :: rest =>
      let element (text : Bytes) : Reading σ :=
        (field.read draft text).mapError fun fault => { fault with place := some (.index index) }
      if b = 0x5D then
        if shape.allowsShort then .ok (draft, b :: rest)
        else .error (.before (.wrongLength index shape.expectedElements) rest)
      else if index = 0 then
        match element (b :: rest) with
        | .error fault => .error fault
        | .ok (draft, rest) => readElements shape (index + 1) draft rest fields
      else if b = 0x2C then
        match skipBlanks rest with
        | [] => .error (.before .endInValue [])
        | c :: after =>
          if c = 0x5D then .error (.atNext .commaBeforeEnd (c :: after))
          else
            match element (c :: after) with
            | .error fault => .error fault
            | .ok (draft, rest) => readElements shape (index + 1) draft rest fields
      else .error (.atNext .expectedCommaOrListEnd (b :: rest))

/-- Reads the end of a list whose fields have been read. -/
def endList (text : Bytes) : Except Fault Bytes :=
  match skipBlanks text with
  | [] => .error (.before .endInList [])
  | b :: rest =>
    if b = 0x5D then .ok rest
    else if b = 0x2C then
      match skipBlanks rest with
      | 0x5D :: after => .error (.atNext .commaBeforeEnd (0x5D :: after))
      | after => .error (.atNext .extraCharacters after)
    else .error (.atNext .extraCharacters (b :: rest))

/-- Reads a record after the bracket that opens its list. -/
def readList (shape : Shape σ α) (text : Bytes) : Except Fault (α × Bytes) := do
  let (draft, rest) ← shape.readElements 0 shape.blank text shape.fields
  match shape.complete draft with
  | .ok a => do
    let rest ← endList rest
    pure (a, rest)
  | .error name => .error (.before (.missingField name) rest)

/-- Reads a record. -/
def read (shape : Shape σ α) (text : Bytes) : Reading α :=
  match skipBlanks text with
  | [] => .error (.before .endInValue [])
  | b :: rest =>
    if b = 0x7B then shape.readObject rest
    else if b = 0x5B then shape.readList rest
    else .error (wrongType shape.expected (b :: rest))

end Shape

end ClockWarden.Json
