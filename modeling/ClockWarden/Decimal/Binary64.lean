/-! Binary floating point with 53 bits, in exact arithmetic, for values that are not negative. A value
is a mantissa times a power of two, and `round` takes a quotient to the nearest value, of two nearest
ones to the even. -/

namespace ClockWarden.Decimal

/-- The value `mantissa * 2 ^ exponent`. -/
structure Binary64 where
  mantissa : Nat
  exponent : Int
deriving DecidableEq, Repr

namespace Binary64

def zero : Binary64 := ⟨0, -1074⟩

/-- The quotient `num / den * 2 ^ shift` as a quotient of naturals. -/
def scaled (num den : Nat) (shift : Int) : Nat × Nat :=
  if 0 ≤ shift then (num * Nat.pow 2 shift.toNat, den) else (num, den * Nat.pow 2 (-shift).toNat)

/-- The value as a quotient of naturals. -/
def fraction (x : Binary64) : Nat × Nat := scaled x.mantissa 1 x.exponent

/-- The greatest `k` with `2 ^ k ≤ num / den`, for a quotient that is not zero. -/
def floorLog (num den : Nat) : Int :=
  let guess : Int := Int.ofNat num.log2 - Int.ofNat den.log2
  let (n, d) := scaled num den (-guess)
  if d ≤ n then guess else guess - 1

/-- The value nearest to `num / den`, or nothing if that is beyond all values. -/
def round (num den : Nat) : Option Binary64 :=
  if num = 0 then some zero
  else
    let exponent := max (floorLog num den - 52) (-1074)
    let (n, d) := scaled num den (-exponent)
    let down := n / d
    let excess := n % d
    let mantissa := if d < 2 * excess ∨ (2 * excess = d ∧ down % 2 = 1) then down + 1 else down
    let value : Binary64 :=
      if mantissa = Nat.pow 2 53 then ⟨Nat.pow 2 52, exponent + 1⟩ else ⟨mantissa, exponent⟩
    if value.exponent ≤ 971 then some value else none

def ofNat (n : Nat) : Option Binary64 := round n 1

/-- The rounded product. -/
def mul (x y : Binary64) : Option Binary64 :=
  let (a, b) := x.fraction
  let (c, d) := y.fraction
  round (a * c) (b * d)

/-- The rounded quotient; `y` is not zero. -/
def div (x y : Binary64) : Option Binary64 :=
  let (a, b) := x.fraction
  let (c, d) := y.fraction
  round (a * d) (b * c)

/-- The value nearest to a quotient that is known to be within reach. -/
def share (num den : Nat) : Binary64 := (round num den).getD zero

/-- The rounded sum of two values that are known to stay within reach. -/
def add (x y : Binary64) : Binary64 :=
  let (a, b) := x.fraction
  let (c, d) := y.fraction
  share (a * d + c * b) (b * d)

/-- The rounded quotient of two values that are known to stay within reach. -/
def quotient (x y : Binary64) : Binary64 := (x.div y).getD zero

/-- Whether one value is less than another. -/
def isLess (x y : Binary64) : Bool :=
  let (a, b) := x.fraction
  let (c, d) := y.fraction
  a * d < c * b

/-- The bounds of the numbers that round to `x`, as numerators over the common denominator that
comes third. Below a power of two the values lie twice as close. -/
def interval (x : Binary64) : Nat × Nat × Nat :=
  let (n, d) := x.fraction
  let (unit, unitDen) := scaled 1 1 x.exponent
  let closer := x.mantissa = Nat.pow 2 52 ∧ -1074 < x.exponent
  let common := 4 * d * unitDen
  let mid := 4 * n * unitDen
  (mid - (if closer then unit * d else 2 * unit * d), mid + 2 * unit * d, common)

end Binary64

end ClockWarden.Decimal
