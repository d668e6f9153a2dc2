import ClockWarden.Text.Quoted

/-! Texts cut at positions in bytes. A position inside a character is no place to cut a text at, and what
asks for such a cut breaks off. -/

namespace ClockWarden

namespace Text

/-- How many bytes characters take up. -/
def width : List Char → Nat
  | [] => 0
  | c :: rest => c.utf8Size + width rest

/-- The characters on both sides of a position in bytes, unless that is inside a character. -/
def cut? : Nat → List Char → Option (List Char × List Char)
  | 0, text => some ([], text)
  | _ + 1, [] => none
  | n + 1, c :: rest =>
    if c.utf8Size ≤ n + 1 then
      (cut? (n + 1 - c.utf8Size) rest).map fun (front, behind) => (c :: front, behind)
    else none

/-- As many of the first characters as there is room for, in bytes. -/
def fitting : Nat → List Char → List Char
  | _, [] => []
  | room, c :: rest => if c.utf8Size ≤ room then c :: fitting (room - c.utf8Size) rest else []

/-- The character at a position in bytes and where it begins, the first one being at position `i`. -/
def characterAt? (position : Nat) : Nat → List Char → Option (Nat × Char)
  | _, [] => none
  | i, c :: rest =>
    if position < i + c.utf8Size then some (i, c) else characterAt? position (i + c.utf8Size) rest

end Text

/-- A position in bytes that a text was to be cut at, and could not. -/
structure Tear where
  text : String
  position : Nat
deriving DecidableEq, Repr

/-- The words in which the cut is reported; of a long text they show the beginning. -/
def Tear.message (tear : Tear) : String :=
  let shown := Text.fitting 256 tear.text.toList
  let quote := "`" ++ String.ofList shown ++ "`" ++ if shown = tear.text.toList then "" else "[...]"
  match Text.characterAt? tear.position 0 tear.text.toList with
  | some (first, c) =>
    "byte index " ++ toString tear.position ++ " is not a char boundary; it is inside '" ++
      String.ofList (Text.quotedChar c) ++ "' (bytes " ++ toString first ++ ".." ++
      toString (first + c.utf8Size) ++ ") of " ++ quote
  | none => "byte index " ++ toString tear.position ++ " is out of bounds of " ++ quote

/-- Why a text was not read: it was refused, or the reading broke off at a cut. -/
inductive Misreading (ε : Type) where
  | refused (fault : ε)
  | torn (tear : Tear)
deriving DecidableEq, Repr

end ClockWarden
