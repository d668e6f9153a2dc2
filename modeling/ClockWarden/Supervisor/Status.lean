import ClockWarden.Calendar.Text
import ClockWarden.FakeTime
import ClockWarden.Json.Record

/-! What callers are told: the confirmation of a launch, and the status of the supervisor, which is
also sent and read as a JSON record. -/

namespace ClockWarden.Supervisor

open Calendar Json

/-- The confirmation of a launch: the fake time asked for, if any, and the process that observes it. -/
structure Confirmation where
  fakeTime : Option FakeTime
  pid : UInt32
deriving DecidableEq

/-- The words of a confirmation. -/
def Confirmation.message (c : Confirmation) : String :=
  match c.fakeTime with
  | some time => "Fake time set to " ++ time.text
  | none => "Managed process started with ambient time"

/-- A snapshot of the supervisor: the managed process, if there is one, and how many launches have
succeeded. -/
structure Status where
  running : Bool := false
  pid : Option UInt32 := none
  fakeTime : Option String := none
  startedAt : Option Timestamp := none
  launches : UInt64 := 0
deriving DecidableEq

namespace Status

/-- An optional value as JSON. -/
def optionText {α : Type} (text : α → String) : Option α → String
  | none => "null"
  | some a => text a

/-- A status as JSON. -/
def text (s : Status) : String :=
  "\x7b" ++ literal "running" ++ ":" ++ toString s.running ++
    "," ++ literal "pid" ++ ":" ++ optionText toString s.pid ++
    "," ++ literal "fake_time" ++ ":" ++ optionText literal s.fakeTime ++
    "," ++ literal "started_at" ++ ":" ++ optionText (fun t => literal t.text) s.startedAt ++
    "," ++ literal "launches" ++ ":" ++ toString s.launches ++ "\x7d"

/-- The fields of a status read so far. -/
structure Draft where
  running : Option Bool := none
  pid : Option (Option UInt32) := none
  fakeTime : Option (Option String) := none
  startedAt : Option (Option Timestamp) := none
  launches : Option UInt64 := none

/-- Reads a moment. -/
def timestamp : Bytes → Reading Timestamp :=
  stringWith "an RFC 3339 formatted date and time string" fun s =>
    (Timestamp.ofText s).mapError Misreading.message

/-- How a status is read. -/
def shape : Shape Draft Status where
  name := "SupervisorStatus"
  fields := [
    ⟨"running", (·.running.isSome), fun d text =>
      (boolean text).map fun (v, rest) => ({ d with running := some v }, rest)⟩,
    ⟨"pid", (·.pid.isSome), fun d text =>
      (optional (unsigned 32) text).map fun (v, rest) =>
        ({ d with pid := some (v.map UInt32.ofNat) }, rest)⟩,
    ⟨"fake_time", (·.fakeTime.isSome), fun d text =>
      (optional string text).map fun (v, rest) => ({ d with fakeTime := some v }, rest)⟩,
    ⟨"started_at", (·.startedAt.isSome), fun d text =>
      (optional timestamp text).map fun (v, rest) => ({ d with startedAt := some v }, rest)⟩,
    ⟨"launches", (·.launches.isSome), fun d text =>
      (unsigned 64 text).map fun (v, rest) => ({ d with launches := some (UInt64.ofNat v) }, rest)⟩]
  blank := {}
  complete d :=
    match d.running, d.launches with
    | none, _ => .error "running"
    | some _, none => .error "launches"
    | some running, some launches =>
      .ok ⟨running, d.pid.join, d.fakeTime.join, d.startedAt.join, launches⟩

end Status

end ClockWarden.Supervisor
