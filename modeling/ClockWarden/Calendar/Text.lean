import ClockWarden.Calendar.Timestamp
import ClockWarden.Text.Blank

/-! Moments as texts. Written, a moment has a year of four digits, or a sign and more where four do not
hold it, a `T` before the time, as few groups of three decimals as it needs, and a `Z`. A reader takes
the same form with some freedom: blanks between the parts, parts of one digit, a blank for the `T`,
more decimals than count, and any offset from universal time. -/

namespace ClockWarden.Calendar

/-- Why a text is no moment. -/
inductive Misreading where
  | outOfRange
  | impossible
  | badCharacter
  | tooShort
  | tooLong
deriving DecidableEq, Repr

def Misreading.message : Misreading → String
  | .outOfRange => "input is out of range"
  | .impossible => "no possible date and time matching input"
  | .badCharacter => "input contains invalid characters"
  | .tooShort => "premature end of input"
  | .tooLong => "trailing input"

/-- The decimal digits of a number, with zeros in front up to a width. -/
def padded (width n : Nat) : List Char :=
  let digits := Nat.toDigits 10 n
  List.replicate (width - digits.length) '0' ++ digits

/-- The year of a written moment. -/
def yearText (year : Int) : List Char :=
  if 0 ≤ year ∧ year ≤ 9999 then padded 4 year.toNat
  else (if year < 0 then '-' else '+') :: padded 4 year.natAbs

/-- The decimals of a written moment. -/
def decimalsText (nanos : Nat) : List Char :=
  if nanos = 0 then []
  else if nanos % 1000000 = 0 then '.' :: padded 3 (nanos / 1000000)
  else if nanos % 1000 = 0 then '.' :: padded 6 (nanos / 1000)
  else '.' :: padded 9 nanos

namespace Timestamp

/-- The seconds of the minute, 60 within a leap second. -/
def secondOfMinute (t : Timestamp) : Nat := t.time.second % 60 + t.time.nanos / 1000000000

/-- The nanoseconds of the second. -/
def nanosOfSecond (t : Timestamp) : Nat := t.time.nanos % 1000000000

/-- A moment as a text. -/
def text (t : Timestamp) : String :=
  String.ofList (yearText t.date.year ++ '-' :: padded 2 t.date.month ++ '-' :: padded 2 t.date.day ++
    'T' :: padded 2 (t.time.second / 3600) ++ ':' :: padded 2 (t.time.second / 60 % 60) ++
    ':' :: padded 2 t.secondOfMinute ++ decimalsText t.nanosOfSecond ++ ['Z'])

/-- The time of day in a log, to the millisecond. -/
def clockText (t : Timestamp) : String :=
  String.ofList (padded 2 (t.time.second / 3600) ++ ':' :: padded 2 (t.time.second / 60 % 60) ++
    ':' :: padded 2 t.secondOfMinute ++ '.' :: padded 3 (t.nanosOfSecond / 1000000))

end Timestamp

/-- A part of a moment and the text behind it. -/
abbrev Part (α : Type) := Except Misreading (α × List Char)

/-- Reads the digits at the front, at most `max` of them, into a number of 63 bits. -/
def digitsPart (value : Nat) : Nat → List Char → Part Nat
  | 0, text => .ok (value, text)
  | _ + 1, [] => .ok (value, [])
  | max + 1, c :: rest =>
    if c.isDigit then
      let value := value * 10 + (c.toNat - 48)
      if value < Nat.pow 2 63 then digitsPart value max rest else .error .outOfRange
    else .ok (value, c :: rest)

/-- Reads a number of one to `max` digits. -/
def numberPart (max : Nat) (text : List Char) : Part Nat :=
  match text with
  | [] => .error .tooShort
  | c :: _ => if c.isDigit then digitsPart 0 max text else .error .badCharacter

/-- Reads a number of up to two digits that lies within bounds, after white space. -/
def boundedPart (low high : Nat) (text : List Char) : Part Nat :=
  match numberPart 2 (Text.trimStart text) with
  | .error e => .error e
  | .ok (n, rest) => if low ≤ n ∧ n ≤ high then .ok (n, rest) else .error .outOfRange

/-- Reads a year: up to four digits, or a sign and any number of them. -/
def yearPart (text : List Char) : Part Int :=
  let bounded (negate : Bool) : Part Nat → Part Int
    | .error e => .error e
    | .ok (n, rest) =>
      let year : Int := if negate then -n else n
      if -2147483648 ≤ year ∧ year ≤ 2147483647 then .ok (year, rest) else .error .outOfRange
  match Text.trimStart text with
  | '-' :: rest => bounded true (numberPart rest.length.succ rest)
  | '+' :: rest => bounded false (numberPart rest.length.succ rest)
  | rest => bounded false (numberPart 4 rest)

/-- Reads a given character. -/
def charPart (c : Char) : List Char → Except Misreading (List Char)
  | [] => .error .tooShort
  | d :: rest => if d = c then .ok rest else .error .badCharacter

/-- Reads the decimals of a second, if there are any; those beyond the ninth do not count. -/
def decimalsPart (text : List Char) : Part Nat :=
  match text with
  | '.' :: rest =>
    match numberPart 9 rest with
    | .error e => .error e
    | .ok (n, after) =>
      .ok (n * Nat.pow 10 (9 - (rest.length - after.length)), after.dropWhile Char.isDigit)
  | _ => .ok (0, text)

/-- Reads two digits of an offset. A character that takes two bytes or more is not too short. -/
def twoDigits (text : List Char) : Part (Nat × Nat) :=
  match text with
  | [] => .error .tooShort
  | [c] => if c.utf8Size < 2 then .error .tooShort else .error .badCharacter
  | a :: b :: rest =>
    if a.isDigit && b.isDigit then .ok ((a.toNat - 48, b.toNat - 48), rest) else .error .badCharacter

/-- Reads an offset from universal time, in seconds. -/
def offsetPart (text : List Char) : Part Int :=
  let signed (isNegative : Bool) (text : List Char) : Except Misreading (Int × List Char) := do
    let ((h, h'), rest) ← twoDigits text
    let ((m, m'), rest) ← twoDigits (rest.dropWhile fun c => c = ':' || Text.isBlank c)
    if 6 ≤ m then .error .outOfRange
    else
      let seconds : Int := (h * 10 + h') * 3600 + (m * 10 + m') * 60
      .ok (if isNegative then -seconds else seconds, rest)
  match text with
  | [] => .error .tooShort
  | a :: rest =>
    if (text.take 3).map Char.toUpper = ['U', 'T', 'C'] then .ok (0, text.drop 3)
    else if a = 'Z' || a = 'z' then .ok (0, rest)
    else if a = '+' then signed false rest
    else if a = '-' || a = '\u2212' then signed true rest
    else .error .badCharacter

/-- Reads what parts the time from the date. -/
def separatorPart : List Char → Except Misreading (List Char)
  | [] => .error .tooShort
  | c :: rest => if c = 'T' || c = 't' || c = ' ' then .ok rest else .error .badCharacter

/-- The moment that a text tells. -/
def Timestamp.ofText (text : String) : Except Misreading Timestamp := do
  let (year, rest) ← yearPart text.toList
  let rest ← charPart '-' (Text.trimStart rest)
  let (month, rest) ← boundedPart 1 12 rest
  let rest ← charPart '-' (Text.trimStart rest)
  let (day, rest) ← boundedPart 1 31 rest
  let rest ← separatorPart rest
  let (hour, rest) ← boundedPart 0 23 rest
  let rest ← charPart ':' (Text.trimStart rest)
  let (minute, rest) ← boundedPart 0 59 rest
  let rest ← charPart ':' (Text.trimStart rest)
  let (second, rest) ← boundedPart 0 60 rest
  let (nanos, rest) ← decimalsPart rest
  let (offset, rest) ← offsetPart (Text.trimStart rest)
  if !(Text.trimStart rest).isEmpty then .error .tooLong
  let some date := Date.ofParts? year month day | .error .outOfRange
  let leap := if second = 60 then 1 else 0
  let some time := TimeOfDay.ofParts? (hour * 3600 + minute * 60 + (second - leap))
    (leap * 1000000000 + nanos) | .error .outOfRange
  if 86400 ≤ offset.natAbs then .error .outOfRange
  let some moment := Timestamp.behind? ⟨date, time⟩ offset | .error .impossible
  pure moment

end ClockWarden.Calendar
