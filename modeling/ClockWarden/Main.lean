import ClockWarden.Service.Rehearsed

/-! The command line. The arguments, the environment and the environment file of the working directory
are read as they are for a service; the run itself takes place on a rehearsed host. Each line of the
input is a request. -/

namespace ClockWarden.Main

open Host

/-- The names that the program looks for in its environment. -/
def names : List String := CommandLine.Flag.all.filterMap CommandLine.Flag.standIn ++ ["PATH", "FAKETIME"]

/-- The part of the environment that the program looks at. -/
def readEnvironment : IO Environment := do
  let bindings ← names.filterMapM fun name => do
    let value ← IO.getEnv name
    return value.map fun value => (Utf8.encode name, Utf8.encode value)
  return .ofList bindings

/-- The environment file, if there is one. -/
def readFile : IO (Option Bytes) := do
  try
    return some (← IO.FS.readBinFile ".env").toList
  catch _ =>
    return none

/-- The lines of the input. -/
partial def readLines (input : IO.FS.Stream) : IO (List String) := do
  let line ← input.getLine
  if line.isEmpty then return []
  let rest ← readLines input
  return line.trimAscii.toString :: rest

/-- Writes the end of a run. -/
def finish (ending : Service.Ending) : IO UInt32 := do
  IO.print ending.output
  IO.eprint ending.complaint
  return ending.exitCode.toUInt32

end ClockWarden.Main

open ClockWarden in
/-- Runs the program. -/
def main (arguments : List String) : IO UInt32 := do
  let environment := Service.environment (← Main.readEnvironment) (← Main.readFile)
  match Service.Opening.of (arguments.map Utf8.encode) environment with
  | .stopped stop => Main.finish (.ofStop stop environment)
  | .rejected failure => Main.finish (.ofFailure failure)
  | .brokenOff tear => Main.finish (.ofTear tear)
  | .opened setup =>
    let lines ← Main.readLines (← IO.getStdin)
    let shown := Service.rehearse setup environment ((lines.filter (· ≠ "")).map Service.requestOfLine)
    shown.log.forM IO.println
    shown.responses.forM IO.println
    Main.finish shown.ending
