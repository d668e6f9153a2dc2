/-! Dates of the common calendar, times of day, and the two together as a moment in universal time.
Nanoseconds run past a second only within a leap second, which follows the last second of a minute. -/

namespace ClockWarden.Calendar

def isLeapYear (year : Int) : Bool := year % 4 = 0 && (year % 100 ≠ 0 || year % 400 = 0)

/-- The length of a month. -/
def daysInMonth (year : Int) (month : Nat) : Nat :=
  if month = 2 then (if isLeapYear year then 29 else 28)
  else if month ∈ [4, 6, 9, 11] then 30
  else 31

/-- The dates that can be told. -/
def IsDate (year : Int) (month day : Nat) : Prop :=
  (-262143 ≤ year ∧ year ≤ 262142) ∧ (1 ≤ month ∧ month ≤ 12) ∧
    (1 ≤ day ∧ day ≤ daysInMonth year month)

instance (year : Int) (month day : Nat) : Decidable (IsDate year month day) :=
  inferInstanceAs (Decidable (_ ∧ _))

/-- A date. -/
structure Date where
  year : Int
  month : Nat
  day : Nat
  isDate : IsDate year month day
deriving DecidableEq

namespace Date

/-- The date with the given parts, if there is one. -/
def ofParts? (year : Int) (month day : Nat) : Option Date :=
  if h : IsDate year month day then some ⟨year, month, day, h⟩ else none

/-- The day after. -/
def next? (d : Date) : Option Date :=
  if d.day < daysInMonth d.year d.month then ofParts? d.year d.month (d.day + 1)
  else if d.month < 12 then ofParts? d.year (d.month + 1) 1
  else ofParts? (d.year + 1) 1 1

/-- The day before. -/
def previous? (d : Date) : Option Date :=
  if 1 < d.day then ofParts? d.year d.month (d.day - 1)
  else if 1 < d.month then ofParts? d.year (d.month - 1) (daysInMonth d.year (d.month - 1))
  else ofParts? (d.year - 1) 12 31

end Date

/-- The times of a day. -/
def IsTime (second nanos : Nat) : Prop :=
  second < 86400 ∧ nanos < 2000000000 ∧ (1000000000 ≤ nanos → second % 60 = 59)

instance (second nanos : Nat) : Decidable (IsTime second nanos) :=
  inferInstanceAs (Decidable (_ ∧ _))

/-- A time of day, in seconds from midnight and nanoseconds. -/
structure TimeOfDay where
  second : Nat
  nanos : Nat
  isTime : IsTime second nanos
deriving DecidableEq

namespace TimeOfDay

/-- The time with the given seconds and nanoseconds, if there is one. -/
def ofParts? (second nanos : Nat) : Option TimeOfDay :=
  if h : IsTime second nanos then some ⟨second, nanos, h⟩ else none

end TimeOfDay

/-- A moment in universal time. -/
structure Timestamp where
  date : Date
  time : TimeOfDay
deriving DecidableEq

namespace Timestamp

/-- The moment at which a clock that is `offset` seconds ahead shows `t`; offsets are shorter than a
day. -/
def behind? (t : Timestamp) (offset : Int) : Option Timestamp :=
  let second : Int := t.time.second - offset
  let at? (date : Option Date) (second : Int) : Option Timestamp := do
    pure ⟨← date, ← TimeOfDay.ofParts? second.toNat t.time.nanos⟩
  if second < 0 then at? t.date.previous? (second + 86400)
  else if second < 86400 then at? (some t.date) second
  else at? t.date.next? (second - 86400)

/-- The date `days` days later. -/
def daysLater? : Nat → Date → Option Date
  | 0, date => some date
  | days + 1, date => date.next?.bind (daysLater? days)

/-- The moment a number of nanoseconds later, not counting leap seconds; `t` itself where the calendar
ends. -/
def plus (t : Timestamp) (nanos : Nat) : Timestamp :=
  let total := t.time.nanos + nanos
  let second := t.time.second + total / 1000000000
  let later : Option Timestamp := do
    pure ⟨← daysLater? (second / 86400) t.date,
      ← TimeOfDay.ofParts? (second % 86400) (total % 1000000000)⟩
  later.getD t

end Timestamp

end ClockWarden.Calendar
