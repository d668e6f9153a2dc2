/-! Texts in parts. -/

namespace ClockWarden.Text

/-- The parts of a text between the characters `c`. -/
def splitAt (c : Char) : List Char → List (List Char)
  | [] => [[]]
  | d :: rest =>
    if d = c then [] :: splitAt c rest
    else
      match splitAt c rest with
      | [] => [[d]]
      | first :: others => (d :: first) :: others

end ClockWarden.Text
