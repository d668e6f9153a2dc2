import ClockWarden.FakeTime
import ClockWarden.Json.Record

/-! The JSON bodies of the control endpoint: a request for a fake time, and the two answers, a message
and an error. A request may lack its fake time, or hold `null` for it, and other fields are ignored. -/

namespace ClockWarden.Control

open Json

/-- A record with a single field that holds a text. -/
def singleton (key value : String) : String :=
  "\x7b" ++ literal key ++ ":" ++ value ++ "\x7d"

/-- How a record with a single field is read. -/
def singletonShape (name key : String) : Shape (Option String) String where
  name := name
  fields := [⟨key, Option.isSome, fun _ text =>
    (string text).map fun (v, rest) => (some v, rest)⟩]
  blank := none
  complete d :=
    match d with
    | some v => .ok v
    | none => .error key

/-- A request to restart the managed process under a fake time. -/
structure TimeRequest where
  fakeTime : Option String
deriving DecidableEq

namespace TimeRequest

/-- A request as JSON. -/
def text (r : TimeRequest) : String :=
  singleton "fake_time" ((r.fakeTime.map literal).getD "null")

/-- How a request is read. -/
def shape : Shape (Option (Option String)) TimeRequest where
  name := "SetTimeRequest"
  fields := [⟨"fake_time", Option.isSome, fun _ text =>
    (optional string text).map fun (v, rest) => (some v, rest)⟩]
  blank := none
  complete d := .ok ⟨d.join⟩
  allowsShort := true

end TimeRequest

/-- The answer to a request that was carried out. -/
structure MessageBody where
  message : String
deriving DecidableEq

namespace MessageBody

def text (b : MessageBody) : String := singleton "message" (literal b.message)

def read (text : Bytes) : Reading MessageBody :=
  ((singletonShape "MessageResponse" "message").read text).map fun (v, rest) => (⟨v⟩, rest)

end MessageBody

/-- The answer to a request that was refused or failed. -/
structure ErrorBody where
  error : String
deriving DecidableEq

namespace ErrorBody

def text (b : ErrorBody) : String := singleton "error" (literal b.error)

def read (text : Bytes) : Reading ErrorBody :=
  ((singletonShape "ErrorResponse" "error").read text).map fun (v, rest) => (⟨v⟩, rest)

end ErrorBody

/-- Reads a fake time on its own. A string that is none has no position. -/
def readFakeTime (text : Bytes) : Reading FakeTime :=
  match string text with
  | .error fault => .error fault
  | .ok (s, rest) =>
    match FakeTime.ofText s with
    | .ok time => .ok (time, rest)
    | .error refusal => .error (.unplaced (.refused refusal.message))

end ClockWarden.Control
