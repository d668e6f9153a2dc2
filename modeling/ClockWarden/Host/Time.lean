/-! Durations, and instants of the host's clock that never goes back. Both count nanoseconds. -/

namespace ClockWarden.Host

/-- A length of time. -/
structure Duration where
  nanos : Nat
deriving DecidableEq, Repr

/-- A reading of the host's clock. -/
structure Instant where
  nanos : Nat
deriving DecidableEq, Repr

instance : LE Instant := ⟨fun a b => a.nanos ≤ b.nanos⟩
instance (a b : Instant) : Decidable (a ≤ b) := inferInstanceAs (Decidable (a.nanos ≤ b.nanos))

namespace Duration

def ofSeconds (seconds : Nat) : Duration := ⟨seconds * 1000000000⟩
def ofMillis (millis : Nat) : Duration := ⟨millis * 1000000⟩

/-- The whole seconds of a duration. -/
def seconds (d : Duration) : Nat := d.nanos / 1000000000

/-- The nanoseconds beyond the whole seconds. -/
def subsecond (d : Duration) : Nat := d.nanos % 1000000000

/-- `whole` units and the digits of `part`, which counts the unit's `10 ^ places`th parts; zeros at
the end are left out, and the point with them. -/
def fractional (whole part places : Nat) : String :=
  let digits := Nat.toDigits 10 part
  let padded := List.replicate (places - digits.length) '0' ++ digits
  let kept := (padded.reverse.dropWhile (· = '0')).reverse
  toString whole ++ if kept.isEmpty then "" else "." ++ String.ofList kept

/-- The text of a duration, in the largest unit that it reaches. -/
def text (d : Duration) : String :=
  if d.nanos ≥ 1000000000 then fractional d.seconds d.subsecond 9 ++ "s"
  else if d.nanos ≥ 1000000 then fractional (d.nanos / 1000000) (d.nanos % 1000000) 6 ++ "ms"
  else if d.nanos ≥ 1000 then fractional (d.nanos / 1000) (d.nanos % 1000) 3 ++ "µs"
  else toString d.nanos ++ "ns"

end Duration

namespace Instant

/-- The clock counts seconds in 63 bits; no instant lies beyond them. -/
def limit : Nat := Nat.pow 2 63 * 1000000000

/-- The instant `d` after `t`, unless the clock cannot count so far. -/
def after? (t : Instant) (d : Duration) : Option Instant :=
  if t.nanos + d.nanos < limit then some ⟨t.nanos + d.nanos⟩ else none

end Instant

end ClockWarden.Host
