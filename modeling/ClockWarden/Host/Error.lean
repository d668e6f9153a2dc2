import ClockWarden.Host.Errno
import ClockWarden.Text.Quoted

/-! What the host answers when it refuses a call: an error number, or a text where no number says
what was wrong. -/

namespace ClockWarden.Host

/-- Why the host refused a call. -/
inductive Error where
  | code (number : Int)
  | nulByte
  | custom (text : String)
deriving DecidableEq, Repr

namespace Error

/-- The text shown to users. -/
def message : Error → String
  | .code number => errnoText number ++ " (os error " ++ toString number ++ ")"
  | .nulByte => "nul byte found in provided data"
  | .custom text => text

/-- The text without the number. -/
def cause : Error → String
  | .code number => errnoText number
  | other => other.message

/-- The text shown in a report of a failed run, with the kind of failure. -/
def report : Error → String
  | .code number =>
    "Os \x7b code: " ++ toString number ++ ", kind: " ++ errnoKind number ++
      ", message: " ++ Text.quoted (errnoText number) ++ " \x7d"
  | .nulByte =>
    "Error \x7b kind: InvalidInput, message: " ++ Text.quoted nulByte.message ++ " \x7d"
  | .custom text => "Custom \x7b kind: Other, error: " ++ Text.quoted text ++ " \x7d"

/-- No such file or directory. -/
def notFound : Error := .code 2
/-- Argument list too long. -/
def argumentsTooLong : Error := .code 7
/-- Exec format error. -/
def badFormat : Error := .code 8
/-- Permission denied. -/
def accessDenied : Error := .code 13
/-- Bad file descriptor. -/
def badDescriptor : Error := .code 9
/-- File exists. -/
def alreadyThere : Error := .code 17
/-- Is a directory. -/
def isDirectory : Error := .code 21
/-- Not a directory. -/
def notDirectory : Error := .code 20
/-- File name too long. -/
def nameTooLong : Error := .code 36
/-- Directory not empty. -/
def notEmpty : Error := .code 39
/-- Too many levels of links. -/
def linkLoop : Error := .code 40

end Error

end ClockWarden.Host
