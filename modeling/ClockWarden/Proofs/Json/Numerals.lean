import ClockWarden.Proofs.Json.Grammar

/-! The numbers of a JSON text that are passed over: digits without a leading zero, a point with digits behind
it, and an exponent. A reader takes the whole of a number (`skipNumber_append`), if nothing stands behind it
that it might go on with, and nothing that is no number (`yields_skipNumber`). -/

namespace ClockWarden.Json

/-- No byte comes next that a number may go on with. -/
def Stops (text : Bytes) : Prop :=
  ∀ b ∈ text.head?, isDigit b = false ∧ b ≠ 0x2E ∧ b ≠ 0x65 ∧ b ≠ 0x45

theorem Stops.isDigit {text : Bytes} (h : Stops text) : ∀ b ∈ text.head?, isDigit b = false :=
  fun b hb => (h b hb).1

theorem stops_nil : Stops [] := fun _ hmem => (by cases hmem)

theorem stops_cons {b : UInt8} (h : isDigit b = false ∧ b ≠ 0x2E ∧ b ≠ 0x65 ∧ b ≠ 0x45) (rest : Bytes) :
    Stops (b :: rest) := by
  rintro _ ⟨⟩
  exact h

theorem stops_of_isBlank {b : UInt8} (h : isBlank b = true) (rest : Bytes) : Stops (b :: rest) := by
  simp only [isBlank, Bool.or_eq_true, decide_eq_true_eq] at h
  refine stops_cons ?_ rest
  obtain ((rfl | rfl) | rfl) | rfl := h <;> decide

theorem stops_blanks {blanks : Bytes} (h : Blanks blanks) {b : UInt8}
    (hb : isDigit b = false ∧ b ≠ 0x2E ∧ b ≠ 0x65 ∧ b ≠ 0x45) (rest : Bytes) :
    Stops (blanks ++ b :: rest) := by
  cases blanks with
  | nil => exact stops_cons hb rest
  | cons blank more => exact stops_of_isBlank (h blank List.mem_cons_self) _

theorem Blanks.stops {blanks : Bytes} (h : Blanks blanks) : Stops blanks := by
  cases blanks with
  | nil => exact stops_nil
  | cons blank more => exact stops_of_isBlank (h blank List.mem_cons_self) more

/-- Nothing but digits. -/
def Digits (text : Bytes) : Prop := ∀ b ∈ text, isDigit b = true

/-- The digits before the point of a number. -/
inductive Whole : Bytes → Prop
  | zero : Whole [0x30]
  | digits {b : UInt8} {more : Bytes} (hzero : b ≠ 0x30) (hdigit : isDigit b = true)
      (hmore : Digits more) : Whole (b :: more)

/-- The point of a number and the digits behind it, or nothing. -/
inductive Fraction : Bytes → Prop
  | none : Fraction []
  | digits {b : UInt8} {more : Bytes} (hdigit : isDigit b = true) (hmore : Digits more) :
      Fraction (0x2E :: b :: more)

/-- The exponent of a number, or nothing. -/
inductive Exponent : Bytes → Prop
  | none : Exponent []
  | digits {letter b : UInt8} {sign more : Bytes} (hletter : letter = 0x65 ∨ letter = 0x45)
      (hsign : sign = [] ∨ sign = [0x2B] ∨ sign = [0x2D]) (hdigit : isDigit b = true)
      (hmore : Digits more) : Exponent (letter :: (sign ++ b :: more))

/-- A number of any size. -/
inductive Numeral : Bytes → Prop
  | natural {whole fraction exponent : Bytes} (hwhole : Whole whole) (hfraction : Fraction fraction)
      (hexponent : Exponent exponent) : Numeral (whole ++ (fraction ++ exponent))
  | negative {whole fraction exponent : Bytes} (hwhole : Whole whole) (hfraction : Fraction fraction)
      (hexponent : Exponent exponent) : Numeral (0x2D :: (whole ++ (fraction ++ exponent)))

theorem dropWhile_digits {digits rest : Bytes} (h : Digits digits)
    (hrest : ∀ b ∈ rest.head?, isDigit b = false) : (digits ++ rest).dropWhile isDigit = rest := by
  rw [List.dropWhile_append_of_pos h]
  cases rest with
  | nil => rfl
  | cons b rest => exact List.dropWhile_cons_of_neg (by simp [hrest b rfl])

theorem exists_digits (text : Bytes) :
    ∃ digits, text = digits ++ text.dropWhile isDigit ∧ Digits digits :=
  ⟨text.takeWhile isDigit, List.takeWhile_append_dropWhile.symm,
    List.all_eq_true.mp List.all_takeWhile⟩

section Complete

variable {rest : Bytes}

theorem skipExponent_append {sign more : Bytes} {b : UInt8}
    (hsign : sign = [] ∨ sign = [0x2B] ∨ sign = [0x2D]) (hdigit : isDigit b = true)
    (hmore : Digits more) (hrest : Stops rest) :
    skipExponent (sign ++ b :: more ++ rest) = .ok rest := by
  have hdrop : (more ++ rest).dropWhile isDigit = rest :=
    dropWhile_digits hmore hrest.isDigit
  rcases hsign with rfl | rfl | rfl
  · have hplus : b ≠ 0x2B := ne_of_isDigit hdigit (by decide)
    have hminus : b ≠ 0x2D := ne_of_isDigit hdigit (by decide)
    unfold skipExponent
    simp [hdigit, hdrop, hplus, hminus]
  · simp [skipExponent, hdigit, hdrop]
  · simp [skipExponent, hdigit, hdrop]

/-- The exponent of a number is found by its letter. -/
theorem exponent_cases {exponent : Bytes} (h : Exponent exponent) (hrest : Stops rest) :
    (∃ letter after, exponent ++ rest = letter :: after ∧ (letter = 0x65 ∨ letter = 0x45) ∧
      skipExponent after = .ok rest) ∨ exponent ++ rest = rest := by
  cases h with
  | none => exact Or.inr rfl
  | digits hletter hsign hdigit hmore =>
      exact Or.inl ⟨_, _, rfl, hletter, skipExponent_append hsign hdigit hmore hrest⟩

theorem isDigit_of_exponent {exponent : Bytes} (h : Exponent exponent)
    (hrest : ∀ b ∈ rest.head?, isDigit b = false) : ∀ b ∈ (exponent ++ rest).head?, isDigit b = false := by
  cases h with
  | none => exact hrest
  | digits hletter hsign hdigit hmore =>
      rintro _ ⟨⟩
      rcases hletter with rfl | rfl <;> decide

theorem isDigit_of_fraction {fraction exponent : Bytes} (hfraction : Fraction fraction)
    (hexponent : Exponent exponent) (hrest : ∀ b ∈ rest.head?, isDigit b = false) :
    ∀ b ∈ (fraction ++ (exponent ++ rest)).head?, isDigit b = false := by
  have htail := isDigit_of_exponent hexponent hrest
  cases hfraction with
  | none => exact htail
  | digits hdigit hmore => simp [isDigit]

theorem skipFraction_of_stops (hrest : Stops rest) : skipFraction rest = .ok rest := by
  unfold skipFraction
  split
  · exact absurd rfl (hrest _ rfl).2.2.1
  · exact absurd rfl (hrest _ rfl).2.2.2
  · exact absurd rfl (hrest _ rfl).2.1
  · rfl

theorem skipFraction_append {fraction exponent : Bytes} (hfraction : Fraction fraction)
    (hexponent : Exponent exponent) (hrest : Stops rest) :
    skipFraction (fraction ++ (exponent ++ rest)) = .ok rest := by
  have htail := isDigit_of_exponent hexponent hrest.isDigit
  cases hfraction with
  | none =>
      rcases exponent_cases hexponent hrest with ⟨letter, after, htext, rfl | rfl, hafter⟩ | htext
      · rw [htext]
        exact hafter
      · rw [htext]
        exact hafter
      · rw [htext]
        exact skipFraction_of_stops hrest
  | @digits b more hdigit hmore =>
      have hdigits : Digits (b :: more) := List.forall_mem_cons.mpr ⟨hdigit, hmore⟩
      have hdrop : (b :: more ++ (exponent ++ rest)).dropWhile isDigit = exponent ++ rest :=
        dropWhile_digits hdigits htail
      have hstarts : skipFraction.startsDigit (b :: more ++ (exponent ++ rest)) = true := hdigit
      rw [List.cons_append, skipFraction, hdrop, hstarts]
      rcases exponent_cases hexponent hrest with ⟨letter, after, htext, rfl | rfl, hafter⟩ | htext
      · rw [htext]
        exact hafter
      · rw [htext]
        exact hafter
      · rw [htext]
        split
        · exact absurd rfl (hrest _ rfl).2.2.1
        · exact absurd rfl (hrest _ rfl).2.2.2
        · rfl

theorem skipUnsigned_append {whole fraction exponent : Bytes} (hwhole : Whole whole)
    (hfraction : Fraction fraction) (hexponent : Exponent exponent) (hrest : Stops rest) :
    skipUnsigned (whole ++ (fraction ++ (exponent ++ rest))) = .ok rest := by
  have hfollows := isDigit_of_fraction hfraction hexponent hrest.isDigit
  have hskip := skipFraction_append hfraction hexponent hrest
  generalize fraction ++ (exponent ++ rest) = tail at hfollows hskip
  cases hwhole with
  | zero =>
      cases tail with
      | nil => exact hskip
      | cons d after =>
          have hnone : isDigit d = false := hfollows d rfl
          simp [skipUnsigned, hnone, hskip]
  | digits hzero hdigit hmore =>
      simp only [List.cons_append, skipUnsigned, if_neg hzero, hdigit, if_true,
        dropWhile_digits hmore hfollows, hskip]

theorem Whole.begins {whole : Bytes} (h : Whole whole) :
    ∃ b more, whole = b :: more ∧ isDigit b = true := by
  cases h with
  | zero => exact ⟨_, _, rfl, by decide⟩
  | digits hzero hdigit hmore => exact ⟨_, _, rfl, hdigit⟩

theorem startsNumber_of_numeral {numeral : Bytes} (h : Numeral numeral) :
    ∃ b more, numeral = b :: more ∧ startsNumber b = true := by
  cases h with
  | natural hwhole hfraction hexponent =>
      obtain ⟨b, more, rfl, hdigit⟩ := hwhole.begins
      refine ⟨b, _, rfl, ?_⟩
      rw [startsNumber, hdigit, Bool.or_true]
  | negative hwhole hfraction hexponent => exact ⟨_, _, rfl, by decide⟩

theorem skipNumber_append {numeral : Bytes} (h : Numeral numeral) (hrest : Stops rest) :
    skipNumber (numeral ++ rest) = .ok rest := by
  cases h with
  | natural hwhole hfraction hexponent =>
      have hskip := skipUnsigned_append hwhole hfraction hexponent hrest
      obtain ⟨b, more, rfl, hdigit⟩ := hwhole.begins
      rw [List.append_assoc, List.append_assoc, List.cons_append] at *
      unfold skipNumber
      split
      · rename_i heq
        exact absurd (List.cons.inj heq).1 (ne_of_isDigit hdigit (by decide))
      · exact hskip
  | negative hwhole hfraction hexponent =>
      have hskip := skipUnsigned_append hwhole hfraction hexponent hrest
      rw [List.cons_append, List.append_assoc, List.append_assoc]
      exact hskip

end Complete

section Sound

theorem yields_skipExponent (text : Bytes) :
    Yields (skipExponent text) fun rest => ∃ sign b more, text = sign ++ b :: (more ++ rest) ∧
      (sign = [] ∨ sign = [0x2B] ∨ sign = [0x2D]) ∧ isDigit b = true ∧ Digits more := by
  fun_cases skipExponent text with
  | case2 unsigned b rest hunsigned hdigit =>
      obtain ⟨sign, hsign, htext⟩ : ∃ sign, (sign = [] ∨ sign = [0x2B] ∨ sign = [0x2D]) ∧
          text = sign ++ unsigned := by
        simp only [unsigned]
        split
        · exact ⟨[0x2B], by simp, rfl⟩
        · exact ⟨[0x2D], by simp, rfl⟩
        · exact ⟨[], by simp, rfl⟩
      obtain ⟨more, hrest, hmore⟩ := exists_digits rest
      refine ⟨sign, b, more, ?_, hsign, hdigit, hmore⟩
      rw [← hrest, ← hunsigned, htext]
  | _ => exact isFormal_before (by decide) _

theorem yields_exponent {letter : UInt8} (hletter : letter = 0x65 ∨ letter = 0x45) (text : Bytes) :
    Yields (skipExponent text) fun rest =>
      ∃ exponent, letter :: text = exponent ++ rest ∧ Exponent exponent := by
  refine (yields_skipExponent text).imp ?_
  rintro rest ⟨sign, b, more, rfl, hsign, hdigit, hmore⟩
  exact ⟨_, by simp, .digits hletter hsign hdigit hmore⟩

theorem exists_fraction {text : Bytes} (h : skipFraction.startsDigit text = true) :
    ∃ fraction, 0x2E :: text = fraction ++ text.dropWhile isDigit ∧ Fraction fraction := by
  cases text with
  | nil => cases h
  | cons b rest =>
      have hdigit : isDigit b = true := h
      obtain ⟨more, hrest, hmore⟩ := exists_digits rest
      refine ⟨0x2E :: b :: more, ?_, .digits hdigit hmore⟩
      rw [List.dropWhile_cons_of_pos hdigit, List.cons_append, List.cons_append, ← hrest]

theorem yields_skipFraction (text : Bytes) :
    Yields (skipFraction text) fun rest => ∃ fraction exponent,
      text = fraction ++ (exponent ++ rest) ∧ Fraction fraction ∧ Exponent exponent := by
  have hfraction {letter : UInt8} (hletter : letter = 0x65 ∨ letter = 0x45) {digits after : Bytes}
      (hdrop : digits.dropWhile isDigit = letter :: after)
      (hstarts : skipFraction.startsDigit digits = true) :
      Yields (skipExponent after) fun rest => ∃ fraction exponent,
        0x2E :: digits = fraction ++ (exponent ++ rest) ∧ Fraction fraction ∧ Exponent exponent := by
    obtain ⟨fraction, htext, hfraction⟩ := exists_fraction hstarts
    refine (yields_exponent hletter after).imp ?_
    rintro rest ⟨exponent, hafter, hexponent⟩
    exact ⟨fraction, exponent, by rw [htext, hdrop, hafter], hfraction, hexponent⟩
  fun_cases skipFraction text with
  | case1 after =>
      refine (yields_exponent (Or.inl rfl) after).imp ?_
      rintro rest ⟨exponent, hafter, hexponent⟩
      exact ⟨[], exponent, hafter, .none, hexponent⟩
  | case2 after =>
      refine (yields_exponent (Or.inr rfl) after).imp ?_
      rintro rest ⟨exponent, hafter, hexponent⟩
      exact ⟨[], exponent, hafter, .none, hexponent⟩
  | case3 digits after hdrop hstarts => exact hfraction (Or.inl rfl) hdrop hstarts
  | case5 digits after hdrop hstarts => exact hfraction (Or.inr rfl) hdrop hstarts
  | case7 digits hstarts =>
      obtain ⟨fraction, htext, hfraction⟩ := exists_fraction hstarts
      exact ⟨fraction, [], htext, hfraction, .none⟩
  | case9 text => exact ⟨[], [], rfl, .none, .none⟩
  | _ => exact isFormal_atNext (by decide) _

theorem yields_skipUnsigned (text : Bytes) :
    Yields (skipUnsigned text) fun rest => ∃ whole fraction exponent,
      text = whole ++ (fraction ++ (exponent ++ rest)) ∧ Whole whole ∧ Fraction fraction ∧
      Exponent exponent := by
  fun_cases skipUnsigned text with
  | case1 => exact isFormal_before (by decide) _
  | case2 => exact isFormal_atNext (by decide) _
  | case3 d after =>
      refine (yields_skipFraction _).imp ?_
      rintro rest ⟨fraction, exponent, htext, hfraction, hexponent⟩
      exact ⟨[0x30], fraction, exponent, by rw [htext]; rfl, .zero, hfraction, hexponent⟩
  | case4 => exact ⟨[0x30], [], [], rfl, .zero, .none, .none⟩
  | case5 b after hzero hdigit =>
      obtain ⟨more, hafter, hmore⟩ := exists_digits after
      refine (yields_skipFraction _).imp ?_
      rintro rest ⟨fraction, exponent, htext, hfraction, hexponent⟩
      refine ⟨b :: more, fraction, exponent, ?_, .digits hzero hdigit hmore, hfraction, hexponent⟩
      rw [List.cons_append, ← htext, ← hafter]
  | case6 => exact isFormal_before (by decide) _

theorem yields_skipNumber (text : Bytes) :
    Yields (skipNumber text) fun rest => ∃ numeral, text = numeral ++ rest ∧ Numeral numeral := by
  fun_cases skipNumber text with
  | case1 after =>
      refine (yields_skipUnsigned _).imp ?_
      rintro rest ⟨whole, fraction, exponent, rfl, hwhole, hfraction, hexponent⟩
      exact ⟨_, by simp, .negative hwhole hfraction hexponent⟩
  | case2 =>
      refine (yields_skipUnsigned _).imp ?_
      rintro rest ⟨whole, fraction, exponent, rfl, hwhole, hfraction, hexponent⟩
      exact ⟨_, by simp, .natural hwhole hfraction hexponent⟩

end Sound

end ClockWarden.Json
