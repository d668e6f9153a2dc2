import ClockWarden.Shell.Command

/-! Patterns that names and texts are compared with: a star stands for any text, a question mark for any
character, and characters in brackets for one of them. Quoted characters stand for themselves. -/

namespace ClockWarden.Shell

/-- A part of a pattern. -/
inductive Shape where
  | exact (byte : UInt8)
  | anyOne
  | anyText
  /-- One of the characters for which the test holds. -/
  | oneOf (test : UInt8 → Bool)

/-- A character of a pattern, and whether it is quoted. -/
abbrev Marked := UInt8 × Bool

namespace Shape

/-- The characters of a class, by its name. -/
def isInClass (name : Bytes) (b : UInt8) : Bool :=
  let isUpper := 0x41 ≤ b && b ≤ 0x5A
  let isLower := 0x61 ≤ b && b ≤ 0x7A
  match Utf8.decodeLossy name with
  | "alpha" => isUpper || isLower
  | "digit" => isDigit b
  | "alnum" => isUpper || isLower || isDigit b
  | "upper" => isUpper
  | "lower" => isLower
  | "space" => b == 0x20 || (0x09 ≤ b && b ≤ 0x0D)
  | "blank" => b == 0x20 || b == 0x09
  | "punct" => 0x21 ≤ b && b ≤ 0x7E && !(isUpper || isLower || isDigit b)
  | "xdigit" => isDigit b || (0x41 ≤ b && b ≤ 0x46) || (0x61 ≤ b && b ≤ 0x66)
  | "cntrl" => b < 0x20 || b == 0x7F
  | "print" => 0x20 ≤ b && b ≤ 0x7E
  | "graph" => 0x21 ≤ b && b ≤ 0x7E
  | _ => false

/-- Reads what stands in brackets up to the closing one, which does not close right behind the opening
one: whether a character is meant, and what comes behind. -/
def bracket (isFirst : Bool) (test : UInt8 → Bool) : Nat → List Marked →
    Option ((UInt8 → Bool) × List Marked)
  | 0, _ => none
  | n + 1, text =>
    match text with
    | [] => none
    | (0x5B, false) :: (0x3A, false) :: rest =>
      let name := (rest.takeWhile fun c => c.1 ≠ 0x3A).map (·.1)
      match rest.drop name.length with
      | (0x3A, _) :: (0x5D, _) :: behind =>
        bracket false (fun b => test b || isInClass name b) n behind
      | _ => bracket false (fun b => test b || b == 0x5B) n ((0x3A, false) :: rest)
    | (b, isQuoted) :: rest =>
      if b = 0x5D ∧ !isQuoted ∧ !isFirst then some (test, rest)
      else
        match rest with
        | (0x2D, false) :: (last, lastQuoted) :: behind =>
          if last = 0x5D ∧ !lastQuoted then bracket false (fun c => test c || c == b) n rest
          else bracket false (fun c => test c || (b ≤ c && c ≤ last)) n behind
        | _ => bracket false (fun c => test c || c == b) n rest

/-- The parts of a pattern. A bracket that is not closed stands for itself. -/
def ofMarked : Nat → List Marked → List Shape
  | 0, _ => []
  | n + 1, text =>
    match text with
    | [] => []
    | (0x2A, false) :: rest => .anyText :: ofMarked n rest
    | (0x3F, false) :: rest => .anyOne :: ofMarked n rest
    | (0x5B, false) :: rest =>
      let (isNegated, inner) := match rest with
        | (0x21, false) :: inner => (true, inner)
        | _ => (false, rest)
      match bracket true (fun _ => false) (inner.length + 1) inner with
      | some (test, behind) => .oneOf (fun b => test b != isNegated) :: ofMarked n behind
      | none => .exact 0x5B :: ofMarked n rest
    | (b, _) :: rest => .exact b :: ofMarked n rest

/-- The parts of a pattern. -/
def pattern (text : List Marked) : List Shape := ofMarked (text.length + 1) text

/-- Whether a text is of a pattern. -/
def fits : List Shape → Bytes → Bool
  | [], text => text.isEmpty
  | .exact b :: shapes, text =>
    match text with
    | c :: rest => b == c && fits shapes rest
    | [] => false
  | .anyOne :: shapes, text =>
    match text with
    | _ :: rest => fits shapes rest
    | [] => false
  | .oneOf test :: shapes, text =>
    match text with
    | c :: rest => test c && fits shapes rest
    | [] => false
  | .anyText :: shapes, text =>
    (List.range (text.length + 1)).any fun n => fits shapes (text.drop n)

/-- Whether a pattern means more than its own text. -/
def isOpen (shapes : List Shape) : Bool :=
  shapes.any fun
    | .exact _ => false
    | _ => true

/-- Takes the shortest or the longest text of a pattern from the front. -/
def cutFront (shapes : List Shape) (isLongest : Bool) (text : Bytes) : Bytes :=
  let lengths := List.range (text.length + 1)
  let lengths := if isLongest then lengths.reverse else lengths
  match lengths.find? fun n => fits shapes (text.take n) with
  | some n => text.drop n
  | none => text

/-- Takes the shortest or the longest text of a pattern from the end. -/
def cutBack (shapes : List Shape) (isLongest : Bool) (text : Bytes) : Bytes :=
  let lengths := List.range (text.length + 1)
  let lengths := if isLongest then lengths else lengths.reverse
  match lengths.find? fun n => fits shapes (text.drop n) with
  | some n => text.take n
  | none => text

end Shape

end ClockWarden.Shell
