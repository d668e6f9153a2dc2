/-! Fake times: the clock settings that a managed process can be started under. What a setting means
is up to the library that applies it; here it only has to be there and to fit into an environment
variable. -/

namespace ClockWarden

/-- A clock setting. -/
structure FakeTime where
  text : String
  nonempty : text ≠ ""
  noNul : '\x00' ∉ text.toList
deriving DecidableEq

namespace FakeTime

/-- Why a request holds no usable fake time. -/
inductive Refusal where
  | missing
  | nul
deriving DecidableEq, Repr

/-- The words of a refusal. -/
def Refusal.message : Refusal → String
  | .missing => "No fake time provided"
  | .nul => "Fake time must not contain NUL bytes"

/-- A text is a fake time unless it is empty or holds a NUL. -/
def ofText (text : String) : Except Refusal FakeTime :=
  if hempty : text = "" then .error .missing
  else if hnul : '\x00' ∈ text.toList then .error .nul
  else .ok ⟨text, hempty, hnul⟩

/-- What a request gives; giving nothing is like giving an empty text. -/
def ofRequest : Option String → Except Refusal FakeTime
  | none => .error .missing
  | some text => ofText text

end FakeTime

end ClockWarden
