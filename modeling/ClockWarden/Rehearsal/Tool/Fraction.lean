import ClockWarden.Decimal.Shortest
import ClockWarden.Rehearsal.Tool.Call

/-! Numbers with a point, as programs read and write them. A number is taken to the nearest value that a
format of so many bits has, and is written from that value exactly. -/

namespace ClockWarden.Rehearsal

open Host Shell

/-- The number of `digits`, `places` of which stand behind the point. -/
structure Fraction where
  isNegative : Bool := false
  digits : Nat
  places : Nat := 0
deriving DecidableEq

namespace Fraction

/-- The number of digits before a point and digits behind it, moved by an exponent; one that is moved
too far is cut. -/
def ofParts (isNegative : Bool) (whole part : Bytes) (exponent : Int) : Fraction :=
  let digits := (numeral? (whole ++ part)).getD 0
  let places := (part.length : Int) - exponent
  if 0 ≤ places then ⟨isNegative, digits, if 400 < places then 400 else places.toNat⟩
  else ⟨isNegative, digits * Nat.pow 10 (if places < -400 then 400 else (-places).toNat), 0⟩

/-- The exponent at the front of a text, and what comes behind it. -/
def exponentAhead (text : Bytes) : Int × Bytes :=
  match text with
  | e :: rest =>
    if e = 0x65 ∨ e = 0x45 then
      let (isNegative, rest) := match rest with
        | 0x2D :: rest => (true, rest)
        | 0x2B :: rest => (false, rest)
        | _ => (false, rest)
      let digits := rest.takeWhile isDigit
      match numeral? digits with
      | some n => (if isNegative then -(n : Int) else n, rest.drop digits.length)
      | none => (0, text)
    else (0, text)
  | [] => (0, [])

/-- The number at the front of a text, and what comes behind it. -/
def ahead? (text : Bytes) : Option (Fraction × Bytes) :=
  let (isNegative, text) := match text with
    | 0x2D :: rest => (true, rest)
    | 0x2B :: rest => (false, rest)
    | _ => (false, text)
  let whole := text.takeWhile isDigit
  let rest := text.drop whole.length
  let (part, rest) := match rest with
    | 0x2E :: rest => (rest.takeWhile isDigit, rest.dropWhile isDigit)
    | _ => ([], rest)
  if whole.isEmpty && part.isEmpty then none
  else
    let (exponent, rest) := exponentAhead rest
    some (ofParts isNegative whole part exponent, rest)

/-- The number that a text is. -/
def ofText? (text : Bytes) : Option Fraction :=
  match ahead? text with
  | some (x, []) => some x
  | _ => none

/-- The digits of a number that has so many places behind its point. -/
def scaledTo (x : Fraction) (places : Nat) : Int :=
  let n : Nat := x.digits * Nat.pow 10 (places - x.places)
  if x.isNegative then -(n : Int) else n

/-- A quotient to the nearest whole number, of two nearest ones to the even. -/
def nearest (num den : Nat) : Nat :=
  let down := num / den
  let excess := num % den
  if den < 2 * excess ∨ (2 * excess = den ∧ down % 2 = 1) then down + 1 else down

/-- The nearest value of so many bits, as a quotient. -/
def quotient (x : Fraction) (bits : Nat) : Nat × Nat :=
  if x.digits = 0 then (0, 1)
  else
    let den := Nat.pow 10 x.places
    let exponent := Decimal.Binary64.floorLog x.digits den + 1 - bits
    let (n, d) := Decimal.Binary64.scaled x.digits den (-exponent)
    Decimal.Binary64.scaled (nearest n d) 1 exponent

/-- The digits of a whole number with a point before the last so many. -/
def pointed (places n : Nat) : Bytes :=
  let digits := Session.decimal n
  let digits := List.replicate (places + 1 - digits.length) 0x30 ++ digits
  digits.take (digits.length - places) ++
    if places = 0 then [] else 0x2E :: digits.drop (digits.length - places)

/-- A quotient with so many places behind the point. -/
def fixed (places : Nat) (num den : Nat) : Bytes := pointed places (nearest (num * Nat.pow 10 places) den)

/-- A quotient as digits with so many places behind the point, and the power of ten of the first. -/
def leading (places : Nat) (num den : Nat) : Nat × Int :=
  if num = 0 then (0, 0)
  else
    let scale := Decimal.leadingScale num den
    let (n, d) := Decimal.tenfold num den (Int.ofNat places - scale)
    let digits := nearest n d
    if digits = Nat.pow 10 (places + 1) then (Nat.pow 10 places, scale + 1) else (digits, scale)

/-- The text of an exponent. -/
def exponentText (scale : Int) : Bytes :=
  let digits := Session.decimal scale.natAbs
  0x65 :: (if scale < 0 then 0x2D else 0x2B) :: List.replicate (2 - digits.length) 0x30 ++ digits

/-- A quotient with an exponent. -/
def scientific (places : Nat) (num den : Nat) : Bytes :=
  let (digits, scale) := leading places num den
  pointed places digits ++ exponentText scale

/-- Drops the zeros at the end of what stands behind a point, and the point if nothing is left. -/
def shortened (text : Bytes) : Bytes :=
  if text.contains 0x2E then
    let kept := (text.reverse.dropWhile (· = 0x30)).reverse
    if kept.getLast? = some 0x2E then kept.dropLast else kept
  else text

/-- A quotient in the shorter of the two ways, with so many digits. -/
def general (keepsZeros : Bool) (count : Nat) (num den : Nat) : Bytes :=
  let count := if count = 0 then 1 else count
  let (digits, scale) := leading (count - 1) num den
  let short (text : Bytes) : Bytes := if keepsZeros then text else shortened text
  if -4 ≤ scale ∧ scale < count then short (fixed (Int.ofNat count - 1 - scale).toNat num den)
  else short (pointed (count - 1) digits) ++ exponentText scale

end Fraction

end ClockWarden.Rehearsal
