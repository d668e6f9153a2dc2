import ClockWarden.Host.Signal

/-! How a process ended: by its own word, with a code, or by a signal. -/

namespace ClockWarden.Host

/-- The way a process ended. -/
inductive ExitStatus where
  | exited (code : UInt8)
  | signaled (signal : Signal)
deriving DecidableEq, Repr

namespace ExitStatus

/-- The text of a status; a signal without a name is shown by its number alone. -/
def text : ExitStatus → String
  | .exited code => "exit status: " ++ toString code
  | .signaled signal =>
    "signal: " ++ toString signal.number ++
      match signal.shortName? with
      | some _ => " (" ++ signal.name ++ ")"
      | none => ""

end ExitStatus

end ClockWarden.Host
