import ClockWarden.Json.Scalar

/-! Who writes a log: the controller program, or a supervisor within some other program. -/

namespace ClockWarden.Log

/-- The writer of a log. -/
inductive Identity where
  | controller
  | embedded
deriving DecidableEq, Repr

namespace Identity

/-- The name of the writer in a log. -/
def name : Identity → String
  | .controller => "controller"
  | .embedded => "embedded"

/-- Who writes when nobody has said so. -/
def standard : Identity := .embedded

/-- The name of the writer in JSON. -/
def tag : Identity → String
  | .controller => "Controller"
  | .embedded => "Embedded"

/-- The writer as JSON. -/
def text (i : Identity) : String := Json.literal i.tag

def read : Bytes → Json.Reading Identity :=
  Json.variant [("Controller", .controller), ("Embedded", .embedded)]

end Identity

end ClockWarden.Log
