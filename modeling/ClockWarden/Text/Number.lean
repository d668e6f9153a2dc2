/-! Natural numbers in texts, below a power of two. -/

namespace ClockWarden.Text

/-- Why a text is no number. -/
inductive NumberFault where
  | empty
  | badDigit
  | tooLarge
deriving DecidableEq, Repr

/-- The words of a fault. -/
def NumberFault.message : NumberFault → String
  | .empty => "cannot parse integer from empty string"
  | .badDigit => "invalid digit found in string"
  | .tooLarge => "number too large to fit in target type"

/-- Takes the digits of a number after those with the given value. -/
def naturalDigits (width value : Nat) : List Char → Except NumberFault Nat
  | [] => .ok value
  | c :: rest =>
    if c.isDigit then
      let value := value * 10 + (c.toNat - 48)
      if value < Nat.pow 2 width then naturalDigits width value rest else .error .tooLarge
    else .error .badDigit

/-- Reads a number below `2 ^ width`; a plus may stand in front of its digits. -/
def natural (width : Nat) (text : List Char) : Except NumberFault Nat :=
  match text with
  | [] => .error .empty
  | ['+'] => .error .badDigit
  | '+' :: rest => naturalDigits width 0 rest
  | rest => naturalDigits width 0 rest

end ClockWarden.Text
