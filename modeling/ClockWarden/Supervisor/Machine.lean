import ClockWarden.Host.Call
import ClockWarden.Log.Entry

/-! Activities that talk to the host. An activity stands in a state, each state makes one call, and
the answer to it decides what is logged and what comes next. Nothing runs between an answer and the
next call, so the states are all there is to say about an activity that is interrupted or given up. -/

namespace ClockWarden.Supervisor

open Host

/-- What comes after an answer of the host. -/
inductive Turn (State Result : Type) where
  | goOn (entries : List Log.Entry) (state : State)
  | finish (entries : List Log.Entry) (result : Result)
deriving DecidableEq

namespace Turn

variable {State Result Outer Last : Type}

/-- What a turn logs. -/
def entries : Turn State Result → List Log.Entry
  | .goOn entries _ => entries
  | .finish entries _ => entries

/-- Logs some entries before all others. -/
def after (earlier : List Log.Entry) : Turn State Result → Turn State Result
  | .goOn entries state => .goOn (earlier ++ entries) state
  | .finish entries result => .finish (earlier ++ entries) result

/-- Makes the turn of a part one of the whole: a state of the part is one of the whole, and what the
part ends with decides how the whole goes on. -/
def within (embed : State → Outer) (follow : Result → Turn Outer Last) :
    Turn State Result → Turn Outer Last
  | .goOn entries state => .goOn entries (embed state)
  | .finish entries result => (follow result).after entries

end Turn

/-- An activity that talks to the host. -/
structure Machine (State Result : Type) where
  call : State → Call
  receive : (state : State) → (call state).Answer → Turn State Result

namespace Machine

variable {State Result : Type}

/-- Something that answers calls and keeps a log. -/
structure Stage (m : Type → Type) where
  answer : (call : Call) → m call.Answer
  log : Log.Entry → m Unit

/-- Writes entries into the log, first one first. -/
def Stage.logAll {m : Type → Type} [Monad m] (stage : Stage m) : List Log.Entry → m Unit
  | [] => pure ()
  | entry :: rest => do
    stage.log entry
    stage.logAll rest

/-- Runs an activity for so many calls; nothing comes of one that asks for more. -/
def run {m : Type → Type} [Monad m] (machine : Machine State Result) (stage : Stage m) :
    Nat → Turn State Result → m (Option Result)
  | _, .finish entries result => do
    stage.logAll entries
    pure (some result)
  | 0, .goOn _ _ => pure none
  | calls + 1, .goOn entries state => do
    stage.logAll entries
    let answer ← stage.answer (machine.call state)
    machine.run stage calls (machine.receive state answer)

end Machine

end ClockWarden.Supervisor
