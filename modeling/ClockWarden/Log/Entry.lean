import ClockWarden.Calendar.Text
import ClockWarden.Log.Identity
import ClockWarden.Text.Quoted

/-! Log entries and their lines. An entry names the component that speaks, says how grave it is, and
may carry an error next to its message. -/

namespace ClockWarden.Log

/-- How grave an entry is, gravest first. -/
inductive Level where
  | error
  | warn
  | info
  | debug
  | trace
deriving DecidableEq, Repr

namespace Level

def all : List Level := [.error, .warn, .info, .debug, .trace]

/-- One for the gravest level, five for the least grave. -/
def rank : Level → Nat
  | .error => 1
  | .warn => 2
  | .info => 3
  | .debug => 4
  | .trace => 5

def name : Level → String
  | .error => "ERROR"
  | .warn => "WARN"
  | .info => "INFO"
  | .debug => "DEBUG"
  | .trace => "TRACE"

end Level

/-- An entry of a log. -/
structure Entry where
  level : Level
  target : String
  message : String
  error : Option String := none
deriving DecidableEq, Repr

namespace Entry

/-- The component that speaks when a program starts, succeeds, fails or stops. -/
def sharedTarget : String := "shared::logging"

def starting (details : String) : Entry := ⟨.info, sharedTarget, "🚀 Starting " ++ details, none⟩

def shuttingDown (reason : String) : Entry :=
  ⟨.info, sharedTarget, "🛑 Shutting down: " ++ reason, none⟩

def succeeded (message : String) : Entry := ⟨.info, sharedTarget, "✅ " ++ message, none⟩

def failed (operation error : String) : Entry :=
  ⟨.error, sharedTarget, "❌ " ++ operation ++ " failed: " ++ error, some error⟩

/-- The names of the fields of an entry, in a written line. -/
def fieldNames (e : Entry) : List String :=
  ["message", "process", "timestamp"] ++ (if e.error.isSome then ["error"] else [])

/-- A character of a message in a line: those that steer a terminal are written out. -/
def harmless (c : Char) : List Char :=
  match c with
  | '\x1b' => ['\\', 'x', '1', 'b']
  | '\x07' => ['\\', 'x', '0', '7']
  | '\x08' => ['\\', 'x', '0', '8']
  | '\x0c' => ['\\', 'x', '0', 'c']
  | '\x7f' => ['\\', 'x', '7', 'f']
  | c =>
    if 0x80 ≤ c.toNat ∧ c.toNat ≤ 0x9F then
      ['\\', 'u', '\x7b'] ++ Nat.toDigits 16 c.toNat ++ ['\x7d']
    else [c]

/-- The line of an entry, without the time that a log puts in front of it. -/
def line (e : Entry) (writer : Identity) (time : Calendar.Timestamp) : String :=
  e.level.name ++ " " ++ String.ofList (e.message.toList.flatMap harmless) ++
    " process=" ++ writer.name ++ " timestamp=" ++ Text.quoted time.clockText ++
    match e.error with
    | some error => " error=" ++ error
    | none => ""

end Entry

end ClockWarden.Log
