import ClockWarden.Decimal.Binary64

/-! How alike two words are. Characters match when they are equal and not too far apart, each once; the
similarity is the mean of the shares of both words that match and of the matches that keep their
order. The shares and their mean are rounded one after the other. -/

namespace ClockWarden.Text

/-- Takes the first character at a position from `low` up to `high` that equals `c` and is not taken
yet; `position` is that of the first character of the list. -/
def takeMatch (c : Char) (low high : Nat) : Nat → List (Char × Bool) → Option (List (Char × Bool))
  | _, [] => none
  | position, (d, isTaken) :: rest =>
    if high ≤ position then none
    else if low ≤ position ∧ c = d ∧ !isTaken then some ((d, true) :: rest)
    else (takeMatch c low high (position + 1) rest).map ((d, isTaken) :: ·)

/-- The characters of the first word that match, in order, and the second word with what they match
marked; `position` is that of the first character. -/
def matching (range : Nat) : Nat → List Char → List (Char × Bool) → List Char × List (Char × Bool)
  | _, [], other => ([], other)
  | position, c :: rest, other =>
    match takeMatch c (position - range) (position + range + 1) 0 other with
    | some other =>
      let (found, other) := matching range (position + 1) rest other
      (c :: found, other)
    | none => matching range (position + 1) rest other

open Decimal in
/-- The mean of three shares. -/
def meanOfThree (x y z : Binary64) : Binary64 := ((x.add y).add z).quotient (.share 3 1)

open Decimal in
/-- The similarity of two words. -/
def similarity (a b : List Char) : Binary64 :=
  if a.isEmpty && b.isEmpty then .share 1 1
  else
    let range := max a.length b.length / 2 - 1
    let (found, other) := matching range 0 a (b.map (·, false))
    let partners := (other.filter (·.2)).map (·.1)
    let count := found.length
    let moved := ((found.zip partners).filter fun (c, d) => c ≠ d).length / 2
    if count = 0 then .zero
    else
      meanOfThree (.share count a.length) (.share count b.length) (.share (count - moved) count)

end ClockWarden.Text
