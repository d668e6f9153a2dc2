import ClockWarden.Decimal.Binary64

/-! The fewest decimal digits that read back as the same floating-point value, nearest to it among
those of that length, and their text. A number from one hundred-thousandth up to sixteen digits is
written in positional form, any other with an exponent that always has a sign. -/

namespace ClockWarden.Decimal

/-- The decimal number `0.d₁d₂… * 10 ^ (scale + 1)`: the digits of a number and the power of ten of
the first. -/
structure Digits where
  digits : List Char
  scale : Int
deriving DecidableEq

/-- The quotient `num / den * 10 ^ shift` as a quotient of naturals. -/
def tenfold (num den : Nat) (shift : Int) : Nat × Nat :=
  if 0 ≤ shift then (num * Nat.pow 10 shift.toNat, den) else (num, den * Nat.pow 10 (-shift).toNat)

/-- The power of ten of the first digit of a quotient that is not zero. -/
def leadingScale (num den : Nat) : Int :=
  if den ≤ num then Int.ofNat ((Nat.toDigits 10 (num / den)).length - 1)
  else
    match (List.range 330).find? fun j => den ≤ num * Nat.pow 10 j with
    | some j => -Int.ofNat j
    | none => -330

/-- The decimal with `count` digits that reads back as `x`, if one of the two next to `x` does. -/
def candidate? (x : Binary64) (count : Nat) : Option (Nat × Int) :=
  let (num, den) := x.fraction
  let unit : Int := leadingScale num den - Int.ofNat count + 1
  let (n, d) := tenfold num den (-unit)
  let (low, high, common) := x.interval
  let fits (k : Nat) : Bool :=
    let (a, b) := tenfold k 1 unit
    if x.mantissa % 2 = 0 then low * b ≤ a * common && a * common ≤ high * b
    else low * b < a * common && a * common < high * b
  let down := n / d
  let up := down + 1
  let nearerUp := d < 2 * (n % d) ∨ (d = 2 * (n % d) ∧ down % 2 = 1)
  match fits down, fits up with
  | true, true => some (if nearerUp then up else down, unit)
  | true, false => some (down, unit)
  | false, true => some (up, unit)
  | false, false => none

/-- The digits of a number without the zeros at its end, which count for `unit` each. -/
def digitsOf (k : Nat) (unit : Int) : Digits :=
  let all := Nat.toDigits 10 k
  ⟨(all.reverse.dropWhile (· = '0')).reverse, unit + Int.ofNat all.length - 1⟩

/-- The shortest decimal that reads back as `x`, which is not zero. -/
def shortest (x : Binary64) : Digits :=
  match (List.range 17).findSome? fun n => candidate? x (n + 1) with
  | some (k, unit) => digitsOf k unit
  | none => digitsOf x.fraction.1 0

/-- The text of digits in positional form, always with a point. -/
def positional (d : Digits) : String :=
  if d.scale < 0 then
    "0." ++ String.ofList (List.replicate ((-d.scale).toNat - 1) '0' ++ d.digits)
  else
    let whole := d.scale.toNat + 1
    let padded := d.digits ++ List.replicate (whole - d.digits.length) '0'
    let places := padded.drop whole
    String.ofList (padded.take whole) ++ "." ++
      (if places.isEmpty then "0" else String.ofList places)

/-- The text of digits with an exponent. -/
def scientific (d : Digits) : String :=
  let head := String.ofList (d.digits.take 1)
  let places := d.digits.drop 1
  let point := if places.isEmpty then "" else "." ++ String.ofList places
  head ++ point ++ "e" ++ (if d.scale < 0 then "-" else "+") ++ toString d.scale.natAbs

/-- The text of a value. -/
def text (x : Binary64) : String :=
  if x.mantissa = 0 then "0.0"
  else
    let d := shortest x
    if -5 ≤ d.scale ∧ d.scale ≤ 15 then positional d else scientific d

end ClockWarden.Decimal
