import ClockWarden.Calendar.Text
import ClockWarden.Proofs.Text.Digits
import Mathlib.Tactic.SplitIfs

/-! Reading the moments that were written. Each part of a text is read up to what follows it, so every
moment is read back from its text, leap seconds and far years included (`Timestamp.ofText_text`). -/

namespace ClockWarden.Calendar

/-! ### Digits -/

section Digits

variable {digits rest : List Char}

/-- Nothing that goes on with a number. -/
def Stops (text : List Char) : Prop := ∀ c ∈ text.head?, c.isDigit = false

theorem digitsPart_append (h : ∀ c ∈ digits, c.isDigit = true) {value max : Nat}
    (hfits : Nat.ofDigitChars 10 digits value < 2 ^ 63) (hlength : digits.length ≤ max)
    (hrest : digits.length = max ∨ Stops rest) :
    digitsPart value max (digits ++ rest) = .ok (Nat.ofDigitChars 10 digits value, rest) := by
  induction digits generalizing value max with
  | nil =>
      cases max with
      | zero => rfl
      | succ max =>
          have hstops : Stops rest := hrest.resolve_left (by simp)
          cases rest with
          | nil => rfl
          | cons c rest =>
              have hdigit : c.isDigit = false := hstops c rfl
              simp [digitsPart, hdigit]
  | cons c digits ih =>
      rw [List.forall_mem_cons] at h
      obtain ⟨max, rfl⟩ : ∃ n, max = n + 1 := Nat.exists_eq_add_one.mpr (Nat.zero_lt_of_lt hlength)
      have hvalue : value * 10 + (c.toNat - 48) = 10 * value + (c.toNat - '0'.toNat) := by
        rw [Nat.mul_comm]
        rfl
      rw [Nat.ofDigitChars_cons, ← hvalue] at hfits ⊢
      have hsmall : value * 10 + (c.toNat - 48) < Nat.pow 2 63 :=
        (Text.le_ofDigitChars digits _).trans_lt hfits
      simp only [List.cons_append, digitsPart, h.1, if_true, hsmall]
      exact ih h.2 hfits (Nat.le_of_succ_le_succ hlength) (hrest.imp_left Nat.succ.inj)

/-- A number is read from its digits. -/
theorem numberPart_append (hne : digits ≠ []) (h : ∀ c ∈ digits, c.isDigit = true) {max : Nat}
    (hfits : Nat.ofDigitChars 10 digits 0 < 2 ^ 63) (hlength : digits.length ≤ max)
    (hrest : digits.length = max ∨ Stops rest) :
    numberPart max (digits ++ rest) = .ok (Nat.ofDigitChars 10 digits 0, rest) := by
  cases digits with
  | nil => exact absurd rfl hne
  | cons c digits =>
      have hdigit : c.isDigit = true := h c List.mem_cons_self
      rw [List.cons_append, numberPart, if_pos hdigit, ← List.cons_append]
      exact digitsPart_append h hfits hlength hrest

end Digits

section Padded

variable (width n : Nat)

theorem isDigit_of_mem_padded : ∀ c ∈ padded width n, c.isDigit = true := by
  intro c hmem
  rcases List.mem_append.mp hmem with hmem | hmem
  · rw [(List.mem_replicate.mp hmem).2]
    rfl
  · exact Text.isDigit_of_mem_toDigits n c hmem

theorem padded_ne_nil : padded width n ≠ [] := by
  simp [padded, Nat.toDigits_ne_nil]

theorem ofDigitChars_padded : Nat.ofDigitChars 10 (padded width n) 0 = n := by
  rw [padded, Nat.ofDigitChars_append, Nat.ofDigitChars_replicate_zero, Nat.mul_zero,
    Nat.ofDigitChars_ten_toDigits]

variable {width n}

theorem length_padded (hwidth : 0 < width) (h : n < 10 ^ width) : (padded width n).length = width := by
  have hlength := (Nat.length_toDigits_le_iff (by decide) hwidth).mpr h
  rw [padded, List.length_append, List.length_replicate]
  omega

theorem isBlank_of_isDigit {c : Char} (h : c.isDigit = true) : Text.isBlank c = false := by
  have hrange := Text.toNat_of_isDigit h
  simp only [Text.isBlank, Bool.or_eq_false_iff, Bool.and_eq_false_iff, decide_eq_false_iff_not]
  omega

variable (width n) in
theorem padded_eq_cons : ∃ c digits, padded width n = c :: digits ∧ c.isDigit = true := by
  have hall := isDigit_of_mem_padded width n
  cases hpadded : padded width n with
  | nil => exact absurd hpadded (padded_ne_nil width n)
  | cons c digits =>
      rw [hpadded] at hall
      exact ⟨c, digits, rfl, hall c List.mem_cons_self⟩

theorem trimStart_cons {c : Char} (h : Text.isBlank c = false) (rest : List Char) :
    Text.trimStart (c :: rest) = c :: rest := by
  rw [Text.trimStart, List.dropWhile_cons_of_neg (by simp [h])]

theorem trimStart_padded (rest : List Char) :
    Text.trimStart (padded width n ++ rest) = padded width n ++ rest := by
  obtain ⟨c, digits, hpadded, hdigit⟩ := padded_eq_cons width n
  rw [hpadded, List.cons_append, trimStart_cons (isBlank_of_isDigit hdigit)]

theorem numberPart_padded {max : Nat} (hfits : n < 2 ^ 63) (hlength : (padded width n).length ≤ max)
    {rest : List Char} (hrest : (padded width n).length = max ∨ Stops rest) :
    numberPart max (padded width n ++ rest) = .ok (n, rest) := by
  have hnumber := numberPart_append (padded_ne_nil width n) (isDigit_of_mem_padded width n)
    (by rwa [ofDigitChars_padded]) hlength hrest
  rwa [ofDigitChars_padded] at hnumber

end Padded

/-! ### Parts -/

theorem boundedPart_padded {low high n : Nat} (hlow : low ≤ n) (hhigh : n ≤ high) (hsmall : n < 100)
    (rest : List Char) : boundedPart low high (padded 2 n ++ rest) = .ok (n, rest) := by
  have hlength : (padded 2 n).length = 2 := length_padded (by decide) hsmall
  rw [boundedPart, trimStart_padded, numberPart_padded (by omega) hlength.le (Or.inl hlength)]
  simp only [hlow, hhigh, and_self, if_true]

theorem stops_cons {c : Char} (h : c.isDigit = false) (rest : List Char) : Stops (c :: rest) := by
  intro d hmem
  cases hmem
  exact h

/-- A year is read up to the hyphen behind it. -/
theorem yearPart_yearText {year : Int} (hlow : -262143 ≤ year) (hhigh : year ≤ 262142)
    (rest : List Char) : yearPart (yearText year ++ '-' :: rest) = .ok (year, '-' :: rest) := by
  unfold yearText
  split
  · rename_i hrange
    have hlength : (padded 4 year.toNat).length = 4 := length_padded (by decide) (by omega)
    have hnumber : numberPart 4 (padded 4 year.toNat ++ '-' :: rest) = .ok (year.toNat, '-' :: rest) :=
      numberPart_padded (by omega) hlength.le (Or.inl hlength)
    obtain ⟨c, digits, hpadded, hdigit⟩ := padded_eq_cons 4 year.toNat
    have hyear : (year.toNat : Int) = year := Int.toNat_of_nonneg hrange.1
    rw [yearPart, trimStart_padded]
    split
    · rename_i heq
      rw [hpadded] at heq
      rw [(List.cons.inj heq).1] at hdigit
      cases hdigit
    · rename_i heq
      rw [hpadded] at heq
      rw [(List.cons.inj heq).1] at hdigit
      cases hdigit
    · rw [hnumber]
      simp only [Bool.false_eq_true, if_false, hyear]
      rw [if_pos (by omega)]
  · have hnumber : numberPart (padded 4 year.natAbs ++ '-' :: rest).length.succ
        (padded 4 year.natAbs ++ '-' :: rest) = .ok (year.natAbs, '-' :: rest) := by
      refine numberPart_padded (by omega) ?_ (Or.inr (stops_cons (by decide) rest))
      rw [List.length_append]
      omega
    by_cases hnegative : year < 0
    · have hyear : -(year.natAbs : Int) = year := by omega
      rw [if_pos hnegative, List.cons_append, yearPart, trimStart_cons (by decide)]
      simp only [hnumber, if_true, hyear]
      rw [if_pos (by omega)]
    · have hyear : (year.natAbs : Int) = year := by omega
      rw [if_neg hnegative, List.cons_append, yearPart, trimStart_cons (by decide)]
      simp only [hnumber, Bool.false_eq_true, if_false, hyear]
      rw [if_pos (by omega)]

/-- As many decimals as are needed are read as the number of nanoseconds. -/
theorem decimalsPart_digits {places n : Nat} (hplaces : 0 < places) (hmost : places ≤ 9)
    (h : n < 10 ^ places) {rest : List Char} (hrest : Stops rest) :
    decimalsPart ('.' :: padded places n ++ rest) = .ok (n * 10 ^ (9 - places), rest) := by
  have hlength := length_padded hplaces h
  have hfits : n < 2 ^ 63 := by
    have hpower : (10 : Nat) ^ places ≤ 10 ^ 9 := Nat.pow_le_pow_right (by decide) hmost
    omega
  rw [List.cons_append, decimalsPart, numberPart_padded hfits (by omega) (Or.inr hrest)]
  have hdrop : rest.dropWhile Char.isDigit = rest := by
    cases rest with
    | nil => rfl
    | cons c rest => rw [List.dropWhile_cons_of_neg (by rw [hrest c rfl]; decide)]
  simp only [hdrop, List.length_append, hlength, Nat.add_sub_cancel]
  rfl

theorem decimalsPart_decimalsText {nanos : Nat} (h : nanos < 1000000000) {rest : List Char}
    (hpoint : ∀ after, rest ≠ '.' :: after) (hrest : Stops rest) :
    decimalsPart (decimalsText nanos ++ rest) = .ok (nanos, rest) := by
  unfold decimalsText
  split_ifs with hnone hmillis hmicros
  · rw [List.nil_append, decimalsPart]
    · rw [hnone]
    · exact hpoint
  · rw [decimalsPart_digits (by decide) (by decide) (by omega) hrest]
    have hnanos : nanos / 1000000 * 10 ^ (9 - 3) = nanos := by omega
    rw [hnanos]
  · rw [decimalsPart_digits (by decide) (by decide) (by omega) hrest]
    have hnanos : nanos / 1000 * 10 ^ (9 - 6) = nanos := by omega
    rw [hnanos]
  · rw [decimalsPart_digits (by decide) (by decide) (by omega) hrest, Nat.sub_self, Nat.pow_zero,
      Nat.mul_one]

theorem charPart_trimStart {c : Char} (h : Text.isBlank c = false) (rest : List Char) :
    charPart c (Text.trimStart (c :: rest)) = .ok rest := by
  rw [trimStart_cons h, charPart, if_pos rfl]

theorem separatorPart_cons (rest : List Char) : separatorPart ('T' :: rest) = .ok rest := rfl

theorem Date.ofParts?_self (d : Date) : ofParts? d.year d.month d.day = some d := dif_pos d.isDate

theorem TimeOfDay.ofParts?_self (t : TimeOfDay) : ofParts? t.second t.nanos = some t := dif_pos t.isTime

/-- A clock in universal time shows the moment itself. -/
theorem Timestamp.behind?_zero (t : Timestamp) : t.behind? 0 = some t := by
  obtain ⟨hsecond, -⟩ := t.time.isTime
  have hself := t.time.ofParts?_self
  simp only [behind?, Int.sub_zero, Int.toNat_natCast]
  rw [if_neg (by omega), if_pos (by omega), hself]
  rfl

/-- A moment is read back from its text. -/
theorem Timestamp.ofText_text (t : Timestamp) : ofText t.text = .ok t := by
  obtain ⟨date, time⟩ := t
  obtain ⟨hyear, hmonth, hday⟩ := date.isDate
  obtain ⟨hsecond, hnanos, hleap⟩ := time.isTime
  have hdays : daysInMonth date.year date.month ≤ 31 := by
    unfold daysInMonth
    split_ifs <;> omega
  have hyearPart (rest : List Char) := yearPart_yearText hyear.1 hyear.2 rest
  have hmonthPart (rest : List Char) := boundedPart_padded hmonth.1 hmonth.2 (by omega) rest
  have hdayPart (rest : List Char) := boundedPart_padded hday.1 (hday.2.trans hdays) (by omega) rest
  have hhourPart (rest : List Char) :=
    boundedPart_padded (Nat.zero_le (time.second / 3600)) (show _ ≤ 23 by omega) (by omega) rest
  have hminutePart (rest : List Char) :=
    boundedPart_padded (Nat.zero_le (time.second / 60 % 60)) (show _ ≤ 59 by omega) (by omega) rest
  have hsecondPart (rest : List Char) :=
    boundedPart_padded (Nat.zero_le (time.second % 60 + time.nanos / 1000000000))
      (show _ ≤ 60 by omega) (by omega) rest
  have hdecimalsPart : decimalsPart (decimalsText (time.nanos % 1000000000) ++ ['Z']) =
      .ok (time.nanos % 1000000000, ['Z']) :=
    decimalsPart_decimalsText (by omega) (by simp) (stops_cons (by decide) [])
  have hoffsetPart : offsetPart (Text.trimStart ['Z']) = .ok (0, []) := by decide
  have hhyphen (rest : List Char) := charPart_trimStart (show Text.isBlank '-' = false by decide) rest
  have hcolon (rest : List Char) := charPart_trimStart (show Text.isBlank ':' = false by decide) rest
  -- A second 60 stands for a whole second among the nanoseconds.
  have hleapSecond : (if time.second % 60 + time.nanos / 1000000000 = 60 then 1 else 0) =
      time.nanos / 1000000000 := by
    split <;> omega
  have hsum : time.second / 3600 * 3600 + time.second / 60 % 60 * 60 +
      (time.second % 60 + time.nanos / 1000000000 - time.nanos / 1000000000) = time.second := by omega
  have hnanosSum : time.nanos / 1000000000 * 1000000000 + time.nanos % 1000000000 = time.nanos :=
    Nat.div_add_mod' time.nanos 1000000000
  simp only [text, secondOfMinute, nanosOfSecond, ofText, String.toList_ofList, List.append_assoc,
    List.cons_append, bind, Except.bind, hyearPart, hmonthPart, hdayPart, separatorPart_cons, hhourPart,
    hminutePart, hsecondPart, hdecimalsPart, hoffsetPart, hhyphen, hcolon, hleapSecond, hsum, hnanosSum,
    Date.ofParts?_self, TimeOfDay.ofParts?_self, behind?_zero]
  rfl

end ClockWarden.Calendar
