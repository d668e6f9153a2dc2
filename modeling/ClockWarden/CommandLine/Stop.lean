import ClockWarden.CommandLine.Flag
import ClockWarden.Host.Environment
import ClockWarden.Text.Terminal

/-! Why a command line does not lead to a run: it asks for help, or something in it is wrong. Each
reason has a text, and the text of a wrong argument ends in a usage line. -/

namespace ClockWarden.CommandLine

open Host

/-- What a usage line shows: an option with a value, or the request for help. -/
inductive Shown where
  | flag (f : Flag)
  | help
deriving DecidableEq, Repr

namespace Shown

def name : Shown → String
  | .flag f => f.name
  | .help => "help"

def usage : Shown → String
  | .flag f => f.usage
  | .help => "--help"

/-- Everything that may stand behind two dashes. -/
def all : List Shown := Flag.all.map .flag ++ [.help]

end Shown

/-- Why there is no run. -/
inductive Stop where
  | help
  | missingValue (flag : Flag)
  | badValue (flag : Flag) (value reason : String)
  | notText
  | repeated (flag : Flag)
  | unknown (argument : String) (similar : Option Shown) (isDashed : Bool) (used : List Shown)
  | unexpectedValue (value : String) (isLate : Bool)
deriving DecidableEq, Repr

namespace Stop

/-- The usage line. Where options were used before the fault, it shows them. -/
def usageLine (used : List Shown) : String :=
  let options := if used.isEmpty then "[OPTIONS]" else " ".intercalate (used.map Shown.usage)
  "Usage: time-controller " ++ options ++ " [-- <MANAGED_ARGS>...]"

/-- The usage line of a request for help that comes after other options: it shows what may be given
with it instead. -/
def lateUsageLine : String :=
  "Usage: time-controller --help <" ++ "|".intercalate (Flag.all.map Flag.usage) ++ "|MANAGED_ARGS>"

/-- A value of the environment as the help text shows it: lines after the first are indented. -/
def shownVariable (value : Bytes) : String :=
  String.ofList ((Utf8.decodeLossy value).toList.flatMap fun c =>
    if c = '\n' then '\n' :: List.replicate 10 ' ' else [c])

/-- The paragraph of an option in the help text. -/
def optionHelp (env : Environment) (f : Flag) : String :=
  let fromEnvironment := match f.standIn with
    | some name =>
      " [env: " ++ name ++ "=" ++ shownVariable ((env.get? (Utf8.encode name)).getD []) ++ "]"
    | none => ""
  "      " ++ Text.marked ("--" ++ f.name) ++ " <" ++ f.placeholder ++ ">\n          " ++
    f.description ++ fromEnvironment ++ " [default: " ++ Utf8.decodeLossy f.standard ++ "]\n"

/-- The help text. -/
def helpText (env : Environment) : String :=
  "Restarts a managed process under a libfaketime clock on request\n\n" ++ usageLine [] ++
    "\n\nArguments:\n  [MANAGED_ARGS]...  Arguments for the managed binary, after `--` " ++
    "(default: --config circles)\n\nOptions:\n" ++ String.join (Flag.all.map (optionHelp env)) ++
    "  " ++ Text.marked "-h" ++ ", " ++ Text.marked "--help" ++ "\n          Print help\n"

/-- The lines that help with an unknown argument. -/
def tips (argument : String) (similar : Option Shown) (isDashed : Bool) : List String :=
  (match similar with
    | some s =>
      ["  tip: a similar argument exists: '" ++ Text.marked ("--" ++ s.name) ++ "'\n"]
    | none => []) ++
  (if isDashed then
    ["  tip: to pass '" ++ Text.marked argument ++ "' as a value, use '" ++
      Text.marked ("-- " ++ argument) ++ "'\n"]
  else [])

/-- The text of a reason, without its last lines. -/
def body : Stop → String
  | .help => ""
  | .missingValue flag =>
    "error: a value is required for '" ++ flag.usage ++ "' but none was supplied"
  | .badValue flag value reason =>
    "error: invalid value '" ++ Text.marked value ++ "' for '" ++ flag.usage ++ "': " ++ reason
  | .notText =>
    "error: invalid UTF-8 was detected in one or more arguments\n\n" ++ usageLine []
  | .repeated flag =>
    "error: the argument '" ++ flag.usage ++ "' cannot be used multiple times\n\n" ++ usageLine []
  | .unknown argument similar isDashed used =>
    let tips := tips argument similar isDashed
    "error: unexpected argument '" ++ Text.marked argument ++ "' found\n\n" ++ String.join tips ++
      (if tips.isEmpty then "" else "\n") ++ usageLine used
  | .unexpectedValue value isLate =>
    "error: unexpected value '" ++ Text.marked value ++
      "' for '--help' found; no more were expected\n\n" ++
      (if isLate then lateUsageLine else usageLine [.help])

/-- The text that is shown in place of a run, with its marks; the help text shows the environment. -/
def markedText (env : Environment) : Stop → String
  | .help => helpText env
  | stop => stop.body ++ "\n\nFor more information, try '--help'.\n"

/-- The text in place of a run. -/
def text (env : Environment) (stop : Stop) : String := Text.withoutControls (stop.markedText env)

/-- The text in place of a run as it is printed. -/
def printed (env : Environment) (stop : Stop) : String :=
  Text.printedWithoutControls (stop.markedText env)

/-- Only a request for help is no fault. -/
def isFault : Stop → Bool
  | .help => false
  | _ => true

/-- The exit code of the program. -/
def exitCode (stop : Stop) : Nat := if stop.isFault then 2 else 0

end Stop

end ClockWarden.CommandLine
