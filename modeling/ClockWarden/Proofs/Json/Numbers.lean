import ClockWarden.Proofs.Json.Numerals

/-! The numbers of a JSON text that are read. A reader takes as much as belongs to a number (`yields_number`), and
what it makes of that, its value or that it is too large, does not depend on what stands behind it
(`settles_number`). -/

namespace ClockWarden.Json

open Decimal

/-- What a reader makes of a text in front of `rest`: a value, or a fault, which is found somewhere. -/
inductive Settles {α : Type} (rest : Bytes) : Except Fault α → Reading α → Prop
  | ok (a : α) : Settles rest (.ok a) (.ok (a, rest))
  | error (fault : Fault) (unread : Bytes) :
      Settles rest (.error fault) (.error { fault with unread := some unread })

section Settles

variable {α β : Type} {rest : Bytes} {reading : Reading α}

theorem Settles.eq_ok {a : α} (h : Settles rest (.ok a) reading) : reading = .ok (a, rest) := by
  cases h
  rfl

theorem Settles.eq_error {fault : Fault} (h : Settles rest (.error fault) reading) :
    ∃ unread, reading = .error { fault with unread := some unread } := by
  cases h
  exact ⟨_, rfl⟩

theorem Settles.value_eq {verdict : Except Fault α} (h : Settles rest verdict reading) {a : α} {after : Bytes}
    (hread : reading = .ok (a, after)) : verdict = .ok a := by
  cases h with
  | ok a => rw [(Prod.mk.inj (Except.ok.inj hread)).1]
  | error fault unread => cases hread

theorem Settles.map {verdict : Except Fault α} (h : Settles rest verdict reading) (f : α → β) :
    Settles rest (verdict.map f) (reading.map fun (a, rest) => (f a, rest)) := by
  cases h with
  | ok a => exact .ok (f a)
  | error fault unread => exact .error fault unread

end Settles

/-- What a number may come to: its value, or that it is too large. -/
def Rates (verdict : Except Fault Number) : Prop :=
  (∃ n, verdict = .ok n) ∨ verdict = .error (.unplaced .numberTooLarge)

/-- A text that is read in the same way, whatever it ends in front of. -/
def Settled (ends : Bytes → Prop) (read : Bytes → Reading Number) (text : Bytes) : Prop :=
  ∃ verdict, Rates verdict ∧ ∀ rest, ends rest → Settles rest verdict (read (text ++ rest))

section Settled

variable {ends ends' : Bytes → Prop} {read read' : Bytes → Reading Number} {text text' : Bytes}

theorem Settled.congr (h : Settled ends read text) (himp : ∀ rest, ends' rest → ends rest)
    (heq : ∀ rest, ends' rest → read' (text' ++ rest) = read (text ++ rest)) : Settled ends' read' text' := by
  obtain ⟨verdict, hrates, hverdict⟩ := h
  refine ⟨verdict, hrates, fun rest hrest => ?_⟩
  rw [heq rest hrest]
  exact hverdict rest (himp rest hrest)

theorem settled_ok (n : Number) (h : ∀ rest, ends rest → read (text ++ rest) = .ok (n, rest)) :
    Settled ends read text := by
  refine ⟨.ok n, Or.inl ⟨n, rfl⟩, fun rest hrest => ?_⟩
  rw [h rest hrest]
  exact .ok n

theorem settled_tooLarge
    (h : ∀ rest, ends rest → ∃ unread, read (text ++ rest) = .error (.before .numberTooLarge unread)) :
    Settled ends read text := by
  refine ⟨.error (.unplaced .numberTooLarge), Or.inr rfl, fun rest hrest => ?_⟩
  obtain ⟨unread, hread⟩ := h rest hrest
  rw [hread]
  exact .error (.unplaced .numberTooLarge) unread

end Settled

/-- No digit comes next. -/
abbrev NoDigit (rest : Bytes) : Prop := ∀ b ∈ rest.head?, isDigit b = false

/-- No byte comes next that a number with such a fraction and such an exponent goes on with. -/
def Delimits (fraction exponent rest : Bytes) : Prop :=
  ∀ b ∈ rest.head?, isDigit b = false ∧
    (exponent = [] → b ≠ 0x65 ∧ b ≠ 0x45 ∧ (fraction = [] → b ≠ 0x2E))

theorem Delimits.noDigit {fraction exponent rest : Bytes} (h : Delimits fraction exponent rest) : NoDigit rest :=
  fun b hb => (h b hb).1

theorem Delimits.stops {rest : Bytes} (h : Delimits [] [] rest) : Stops rest := by
  intro b hb
  obtain ⟨hdigit, hgoes⟩ := h b hb
  obtain ⟨hsmall, hlarge, hpoint⟩ := hgoes rfl
  exact ⟨hdigit, hpoint rfl, hsmall, hlarge⟩

theorem Stops.delimits {rest : Bytes} (h : Stops rest) (fraction exponent : Bytes) :
    Delimits fraction exponent rest :=
  fun b hb => ⟨(h b hb).1, fun _ => ⟨(h b hb).2.2.1, (h b hb).2.2.2, fun _ => (h b hb).2.1⟩⟩

/-- A number that ends in front of `rest`. -/
inductive NumeralTo (rest : Bytes) : Bytes → Prop
  | natural {whole fraction exponent : Bytes} (hwhole : Whole whole) (hfraction : Fraction fraction)
      (hexponent : Exponent exponent) (hdelimits : Delimits fraction exponent rest) :
      NumeralTo rest (whole ++ (fraction ++ exponent))
  | negative {whole fraction exponent : Bytes} (hwhole : Whole whole) (hfraction : Fraction fraction)
      (hexponent : Exponent exponent) (hdelimits : Delimits fraction exponent rest) :
      NumeralTo rest (0x2D :: (whole ++ (fraction ++ exponent)))

theorem NumeralTo.numeral {numeral rest : Bytes} (h : NumeralTo rest numeral) : Numeral numeral := by
  cases h with
  | natural hwhole hfraction hexponent => exact .natural hwhole hfraction hexponent
  | negative hwhole hfraction hexponent => exact .negative hwhole hfraction hexponent

theorem Numeral.to {numeral : Bytes} (h : Numeral numeral) {rest : Bytes} (hrest : Stops rest) :
    NumeralTo rest numeral := by
  cases h with
  | natural hwhole hfraction hexponent => exact .natural hwhole hfraction hexponent (hrest.delimits _ _)
  | negative hwhole hfraction hexponent => exact .negative hwhole hfraction hexponent (hrest.delimits _ _)

/-! ### Digits -/

/-- Every digit is kept or dropped. -/
theorem count_foldl_push (digits : Bytes) (l : Leading) :
    (digits.foldl Leading.push l).kept + (digits.foldl Leading.push l).dropped =
      l.kept + l.dropped + digits.length := by
  induction digits generalizing l with
  | nil => rfl
  | cons b digits ih =>
      have hpush : (l.push b).kept + (l.push b).dropped = l.kept + l.dropped + 1 := by
        simp only [Leading.push]
        split_ifs with hfits
        · simp only [hfits.1]
        · exact (Nat.add_assoc _ _ _).symm
      rw [List.foldl_cons, ih, hpush, List.length_cons]
      omega

/-- Digits are taken up to the next byte that is none. -/
theorem leadingDigits_digits {digits rest : Bytes} (h : Digits digits)
    (hrest : NoDigit rest) (value : Nat) :
    leadingDigits value (digits ++ rest) = (digits.foldl Leading.push ⟨value, 0, 0⟩, rest) := by
  have htake : rest.takeWhile isDigit = [] := by
    cases rest with
    | nil => rfl
    | cons b rest => exact List.takeWhile_cons_of_neg (by simp [hrest b rfl])
  rw [leadingDigits, List.takeWhile_append_of_pos h, htake, List.append_nil, dropWhile_digits h hrest]

/-- The digits of an exponent all fit, or one of them does not, whatever stands behind them. -/
theorem exponentDigits_digits {digits : Bytes} (h : Digits digits) (value : Nat) :
    (∃ n, ∀ rest, NoDigit rest → exponentDigits value (digits ++ rest) = .ok (n, rest)) ∨
      ∃ left, Digits left ∧ ∀ rest, exponentDigits value (digits ++ rest) = .error (left ++ rest) := by
  induction digits generalizing value with
  | nil =>
      refine Or.inl ⟨value, fun rest hrest => ?_⟩
      cases rest with
      | nil => rfl
      | cons b rest => simp [exponentDigits, hrest b rfl]
  | cons b digits ih =>
      obtain ⟨hdigit, hdigits⟩ := List.forall_mem_cons.mp h
      by_cases hfits : value * 10 + digitValue b < Nat.pow 2 31
      · simpa only [List.cons_append, exponentDigits, hdigit, if_true, if_pos hfits] using ih hdigits _
      · refine Or.inr ⟨digits, hdigits, fun rest => ?_⟩
        simp only [List.cons_append, exponentDigits, hdigit, if_true, if_neg hfits]

/-! ### The parts of a number -/

section Parts

variable (isNegative : Bool) (digits dropped : Nat) (shift : Int)

theorem settled_floatingNumber (ends : Bytes → Prop) (exponent : Int) :
    Settled ends (floatingNumber isNegative digits exponent) [] := by
  cases hscale : (Binary64.ofNat digits).bind fun value => scaleByTen value exponent 3 with
  | some magnitude =>
      refine settled_ok (.floating isNegative magnitude) fun rest _ => ?_
      simp only [List.nil_append, floatingNumber, hscale]
  | none =>
      refine settled_tooLarge fun rest _ => ⟨rest, ?_⟩
      simp only [List.nil_append, floatingNumber, hscale]

/-- What the digits of an exponent behind the first make of a number. -/
def exponentNumber (isSmall : Bool) (value : Nat) (text : Bytes) : Reading Number :=
  match exponentDigits value text with
  | .ok (n, rest) => floatingNumber isNegative digits (if isSmall then shift - n else shift + n) rest
  | .error rest =>
    if digits ≠ 0 ∧ !isSmall then .error (.before .numberTooLarge rest)
    else .ok (.floating isNegative .zero, rest.dropWhile isDigit)

theorem settled_exponentNumber (isSmall : Bool) (value : Nat) {more : Bytes} (hmore : Digits more) :
    Settled NoDigit (exponentNumber isNegative digits shift isSmall value) more := by
  rcases exponentDigits_digits hmore value with ⟨n, hread⟩ | ⟨left, hleft, hread⟩
  · refine (settled_floatingNumber isNegative digits NoDigit
      (if isSmall then shift - n else shift + n)).congr (fun _ => id) fun rest hrest => ?_
    simp only [exponentNumber, hread rest hrest, List.nil_append]
  · by_cases hlarge : digits ≠ 0 ∧ (!isSmall) = true
    · refine settled_tooLarge fun rest _ => ⟨left ++ rest, ?_⟩
      simp only [exponentNumber, hread rest, if_pos hlarge]
    · refine settled_ok (.floating isNegative .zero) fun rest hrest => ?_
      simp only [exponentNumber, hread rest, if_neg hlarge, dropWhile_digits hleft hrest]

/-- The sign of an exponent is read apart from its digits. -/
theorem exponentPart_sign {sign : Bytes} (hsign : sign = [] ∨ sign = [0x2B] ∨ sign = [0x2D]) {b : UInt8}
    (hdigit : isDigit b = true) (text : Bytes) :
    exponentPart isNegative digits shift (sign ++ b :: text) =
      exponentNumber isNegative digits shift (sign = [0x2D]) (digitValue b) text := by
  rcases hsign with rfl | rfl | rfl
  · rw [List.nil_append, exponentPart]
    · simp only [hdigit, if_true]
      rfl
    · rintro rest ⟨⟩
      exact absurd rfl (ne_of_isDigit hdigit (by decide))
    · rintro rest ⟨⟩
      exact absurd rfl (ne_of_isDigit hdigit (by decide))
  · simp only [exponentPart, List.singleton_append, hdigit, if_true]
    rfl
  · simp only [exponentPart, List.singleton_append, hdigit, if_true]
    rfl

theorem settled_exponentPart {sign more : Bytes} {b : UInt8}
    (hsign : sign = [] ∨ sign = [0x2B] ∨ sign = [0x2D]) (hdigit : isDigit b = true)
    (hmore : Digits more) :
    Settled NoDigit (exponentPart isNegative digits shift) (sign ++ b :: more) := by
  refine (settled_exponentNumber isNegative digits shift (sign = [0x2D]) (digitValue b) hmore).congr
    (fun _ => id) fun rest _ => ?_
  rw [List.append_assoc, List.cons_append, exponentPart_sign isNegative digits shift hsign hdigit]

/-- A part of a number that an exponent may stand behind. -/
theorem settled_exponent {read : Bytes → Reading Number} {text fraction exponent : Bytes}
    (h : Exponent exponent) (hnone : Settled (Delimits fraction []) read text)
    (hletter : ∀ letter after, letter = 0x65 ∨ letter = 0x45 →
      read (text ++ letter :: after) = exponentPart isNegative digits shift after) :
    Settled (Delimits fraction exponent) read (text ++ exponent) := by
  cases h with
  | none => rwa [List.append_nil]
  | digits hexponent hsign hdigit hmore =>
      refine (settled_exponentPart isNegative digits shift hsign hdigit hmore).congr
        (fun _ hrest => hrest.noDigit) fun rest _ => ?_
      rw [List.append_assoc, List.cons_append, hletter _ _ hexponent]

theorem settled_fractionPart {b : UInt8} {more exponent : Bytes} (hdigit : isDigit b = true)
    (hmore : Digits more) (hexponent : Exponent exponent) :
    Settled (Delimits (0x2E :: b :: more) exponent) (fractionPart isNegative digits shift)
      (b :: more ++ exponent) := by
  have hdigits : Digits (b :: more) := List.forall_mem_cons.mpr ⟨hdigit, hmore⟩
  have hcount := count_foldl_push (b :: more) ⟨digits, 0, 0⟩
  have hread {tail : Bytes} (htail : NoDigit tail) :=
    leadingDigits_digits hdigits htail digits
  generalize (b :: more).foldl Leading.push ⟨digits, 0, 0⟩ = leading at hcount hread
  have hsome : ¬(leading.kept = 0 ∧ leading.dropped = 0) := by
    simp only [List.length_cons] at hcount
    omega
  refine settled_exponent isNegative leading.value (shift - leading.kept) hexponent ?_ ?_
  · refine (settled_floatingNumber isNegative leading.value _ (shift - leading.kept)).congr (fun _ => id)
      fun rest hrest => ?_
    simp only [fractionPart, hread hrest.noDigit, if_neg hsome, List.nil_append]
    split
    · exact absurd rfl ((hrest _ rfl).2 rfl).1
    · exact absurd rfl ((hrest _ rfl).2 rfl).2.1
    · rfl
  · rintro letter after (rfl | rfl)
    · simp only [fractionPart, @hread (0x65 :: after) (by simp [NoDigit, isDigit]), if_neg hsome]
    · simp only [fractionPart, @hread (0x45 :: after) (by simp [NoDigit, isDigit]), if_neg hsome]

theorem afterInteger_of_stops {rest : Bytes} (h : Stops rest) :
    afterInteger isNegative digits dropped rest =
      if dropped ≠ 0 then floatingNumber isNegative digits dropped rest
      else if !isNegative then .ok (.natural digits, rest)
      else if digits = 0 ∨ Nat.pow 2 63 < digits then floatingNumber true digits 0 rest
      else .ok (.negative digits, rest) := by
  unfold afterInteger
  split
  · exact absurd rfl (h _ rfl).2.1
  · exact absurd rfl (h _ rfl).2.2.1
  · exact absurd rfl (h _ rfl).2.2.2
  · rfl

theorem settled_integer : Settled (Delimits [] []) (afterInteger isNegative digits dropped) [] := by
  have hread (rest : Bytes) (hrest : Delimits [] [] rest) :=
    afterInteger_of_stops isNegative digits dropped hrest.stops
  by_cases hdropped : dropped ≠ 0
  · refine (settled_floatingNumber isNegative digits _ dropped).congr (fun _ => id) fun rest hrest => ?_
    rw [List.nil_append, hread rest hrest, if_pos hdropped]
  cases isNegative with
  | false =>
      refine settled_ok (.natural digits) fun rest hrest => ?_
      rw [List.nil_append, hread rest hrest, if_neg hdropped]
      rfl
  | true =>
      by_cases hlarge : digits = 0 ∨ Nat.pow 2 63 < digits
      · refine (settled_floatingNumber true digits _ 0).congr (fun _ => id) fun rest hrest => ?_
        rw [List.nil_append, hread rest hrest, if_neg hdropped, if_pos hlarge]
        rfl
      · refine settled_ok (.negative digits) fun rest hrest => ?_
        rw [List.nil_append, hread rest hrest, if_neg hdropped, if_neg hlarge]
        rfl

theorem settled_afterInteger {fraction exponent : Bytes} (hfraction : Fraction fraction)
    (hexponent : Exponent exponent) :
    Settled (Delimits fraction exponent) (afterInteger isNegative digits dropped) (fraction ++ exponent) := by
  cases hfraction with
  | none =>
      refine settled_exponent isNegative digits dropped hexponent
        (settled_integer isNegative digits dropped) ?_
      rintro letter after (rfl | rfl) <;> rfl
  | digits hdigit hmore =>
      exact (settled_fractionPart isNegative digits dropped hdigit hmore hexponent).congr (fun _ => id)
        fun _ _ => rfl

theorem settled_unsignedNumber {whole fraction exponent : Bytes} (hwhole : Whole whole)
    (hfraction : Fraction fraction) (hexponent : Exponent exponent) :
    Settled (Delimits fraction exponent) (unsignedNumber isNegative) (whole ++ (fraction ++ exponent)) := by
  have hfollows {rest : Bytes} (hrest : Delimits fraction exponent rest) :
      NoDigit (fraction ++ exponent ++ rest) := by
    rw [List.append_assoc]
    exact isDigit_of_fraction hfraction hexponent hrest.noDigit
  cases hwhole with
  | zero =>
      refine (settled_afterInteger isNegative 0 0 hfraction hexponent).congr (fun _ => id) fun rest hrest => ?_
      have hnone := hfollows hrest
      rw [List.append_assoc]
      generalize fraction ++ exponent ++ rest = tail at hnone
      cases tail with
      | nil => rfl
      | cons d after => simp [unsignedNumber, hnone d rfl]
  | @digits b more hzero hdigit hmore =>
      have hdigits : Digits (b :: more) := List.forall_mem_cons.mpr ⟨hdigit, hmore⟩
      refine (settled_afterInteger isNegative ((b :: more).foldl Leading.push ⟨0, 0, 0⟩).value
        ((b :: more).foldl Leading.push ⟨0, 0, 0⟩).dropped hfraction hexponent).congr (fun _ => id)
        fun rest hrest => ?_
      have hleading := leadingDigits_digits hdigits (hfollows hrest) 0
      rw [List.cons_append] at hleading
      rw [List.append_assoc, List.cons_append]
      simp only [unsignedNumber, if_neg hzero, hdigit, if_true, hleading]

end Parts

/-- The value of a number, or why it has none. -/
def numberOf (numeral : Bytes) : Except Fault Number :=
  match number numeral with
  | .ok (n, _) => .ok n
  | .error fault => .error { fault with unread := none }

/-- A number that is read alone has the value that it has in front of other text. -/
theorem Settled.number {ends : Bytes → Prop} {numeral : Bytes} (h : Settled ends number numeral)
    (hnil : ends []) {rest : Bytes} (hrest : ends rest) :
    Rates (numberOf numeral) ∧ Settles rest (numberOf numeral) (Json.number (numeral ++ rest)) := by
  obtain ⟨verdict, hrates, hverdict⟩ := h
  have halone := hverdict [] hnil
  have hsettles := hverdict rest hrest
  rw [List.append_nil] at halone
  have heq : numberOf numeral = verdict := by
    rcases hrates with ⟨n, rfl⟩ | rfl
    · simp only [numberOf, halone.eq_ok]
    · obtain ⟨unread, hread⟩ := halone.eq_error
      simp only [numberOf, hread, Fault.unplaced]
  rw [heq]
  exact ⟨hrates, hsettles⟩

section Numerals

variable {numeral rest : Bytes}

theorem NumeralTo.settles (h : NumeralTo rest numeral) :
    Rates (numberOf numeral) ∧ Settles rest (numberOf numeral) (number (numeral ++ rest)) := by
  cases h with
  | natural hwhole hfraction hexponent hdelimits =>
      refine Settled.number ((settled_unsignedNumber false hwhole hfraction hexponent).congr (fun _ => id)
        fun rest _ => ?_) (stops_nil.delimits _ _) hdelimits
      obtain ⟨b, more, rfl, hdigit⟩ := hwhole.begins
      exact number_of_isDigit hdigit _
  | negative hwhole hfraction hexponent hdelimits =>
      exact Settled.number ((settled_unsignedNumber true hwhole hfraction hexponent).congr (fun _ => id)
        fun rest _ => rfl) (stops_nil.delimits _ _) hdelimits

theorem settles_number (h : NumeralTo rest numeral) :
    Settles rest (numberOf numeral) (number (numeral ++ rest)) := h.settles.2

end Numerals

/-! ### What is read is a number -/

theorem noDigit_dropWhile (text : Bytes) : NoDigit (text.dropWhile isDigit) := by
  intro b hb
  have hhead := List.head?_dropWhile_not isDigit text
  rw [Option.mem_def.mp hb] at hhead
  simpa using hhead

theorem yields_floatingNumber (isNegative : Bool) (digits : Nat) (exponent : Int) (text : Bytes) :
    Yields (floatingNumber isNegative digits exponent text) fun (_, rest) => text = rest := by
  fun_cases floatingNumber isNegative digits exponent text
  · rfl
  · exact isFormal_before (by decide) _

/-- The digits of an exponent are digits, whether they fit or not. -/
theorem digits_of_exponentDigits (value : Nat) (text : Bytes) :
    (∀ n rest, exponentDigits value text = .ok (n, rest) →
      ∃ more, text = more ++ rest ∧ Digits more ∧ NoDigit rest) ∧
    ∀ rest, exponentDigits value text = .error rest → ∃ more, text = more ++ rest ∧ Digits more := by
  fun_induction exponentDigits value text with
  | case1 value =>
      refine ⟨?_, fun rest h => by cases h⟩
      rintro _ _ ⟨⟩
      exact ⟨[], rfl, List.forall_mem_nil _, stops_nil.isDigit⟩
  | case2 value b text hdigit value' hfits ih =>
      refine ⟨fun n rest hread => ?_, fun rest hread => ?_⟩
      · obtain ⟨more, rfl, hmore, hrest⟩ := ih.1 n rest hread
        exact ⟨b :: more, rfl, List.forall_mem_cons.mpr ⟨hdigit, hmore⟩, hrest⟩
      · obtain ⟨more, rfl, hmore⟩ := ih.2 rest hread
        exact ⟨b :: more, rfl, List.forall_mem_cons.mpr ⟨hdigit, hmore⟩⟩
  | case3 value b text hdigit value' hfits =>
      refine ⟨fun n rest hread => (by cases hread), ?_⟩
      rintro _ ⟨⟩
      exact ⟨[b], rfl, List.forall_mem_singleton.mpr hdigit⟩
  | case4 value b text hdigit =>
      refine ⟨?_, fun rest h => by cases h⟩
      rintro _ _ ⟨⟩
      refine ⟨[], rfl, List.forall_mem_nil _, ?_⟩
      rintro _ ⟨⟩
      exact Bool.eq_false_iff.mpr hdigit

theorem exists_sign {text after : Bytes} {isSmall : Bool}
    (h : (match text with
      | 0x2B :: rest => (false, rest)
      | 0x2D :: rest => (true, rest)
      | _ => (false, text)) = (isSmall, after)) :
    ∃ sign, (sign = [] ∨ sign = [0x2B] ∨ sign = [0x2D]) ∧ text = sign ++ after := by
  split at h
  · exact ⟨[0x2B], by simp, by rw [← (Prod.mk.inj h).2]; rfl⟩
  · exact ⟨[0x2D], by simp, by rw [← (Prod.mk.inj h).2]; rfl⟩
  · exact ⟨[], by simp, (Prod.mk.inj h).2⟩

/-- The letter of an exponent and what is read behind it. -/
theorem yields_exponentPart (isNegative : Bool) (digits : Nat) (shift : Int) {letter : UInt8}
    (hletter : letter = 0x65 ∨ letter = 0x45) (text : Bytes) :
    Yields (exponentPart isNegative digits shift text) fun (_, rest) => ∃ exponent,
      letter :: text = exponent ++ rest ∧ Exponent exponent ∧ ∀ fraction, Delimits fraction exponent rest := by
  have hparts {sign more rest : Bytes} {b : UInt8} (hsign : sign = [] ∨ sign = [0x2B] ∨ sign = [0x2D])
      (htext : text = sign ++ b :: (more ++ rest)) (hdigit : isDigit b = true) (hmore : Digits more)
      (hrest : NoDigit rest) :
      ∃ exponent, letter :: text = exponent ++ rest ∧ Exponent exponent ∧
        ∀ fraction, Delimits fraction exponent rest := by
    refine ⟨letter :: (sign ++ b :: more), ?_, .digits hletter hsign hdigit hmore, ?_⟩
    · rw [htext]
      simp
    · exact fun fraction c hc => ⟨hrest c hc, fun hnil => (by cases hnil)⟩
  fun_cases exponentPart isNegative digits shift text with
  | case2 isSmall b after hdigit n rest hread hsplit =>
      obtain ⟨sign, hsign, htext⟩ := exists_sign hsplit
      obtain ⟨more, rfl, hmore, hrest⟩ := (digits_of_exponentDigits _ _).1 n rest hread
      refine (yields_floatingNumber _ _ _ _).imp ?_
      rintro ⟨_, _⟩ rfl
      exact hparts hsign htext hdigit hmore hrest
  | case4 isSmall b after hdigit rest hread hfits hsplit =>
      obtain ⟨sign, hsign, htext⟩ := exists_sign hsplit
      obtain ⟨more, rfl, hmore⟩ := (digits_of_exponentDigits _ _).2 rest hread
      obtain ⟨others, hothers, hdigits⟩ := exists_digits rest
      have hall : text = sign ++ b :: ((more ++ others) ++ rest.dropWhile isDigit) := by
        rw [List.append_assoc, ← hothers, htext]
      exact hparts hsign hall hdigit (List.forall_mem_append.mpr ⟨hmore, hdigits⟩) (noDigit_dropWhile rest)
  | _ => exact isFormal_before (by decide) _

theorem exists_leadingDigits {value : Nat} {text rest : Bytes} {leading : Leading}
    (h : leadingDigits value text = (leading, rest)) (hsome : ¬(leading.kept = 0 ∧ leading.dropped = 0)) :
    ∃ b more, text = b :: more ++ rest ∧ isDigit b = true ∧ Digits more ∧ NoDigit rest := by
  obtain ⟨hleading, rfl⟩ := Prod.mk.inj h
  have hcount := count_foldl_push (text.takeWhile isDigit) ⟨value, 0, 0⟩
  have hdigits : Digits (text.takeWhile isDigit) := List.all_eq_true.mp List.all_takeWhile
  have htext : text = text.takeWhile isDigit ++ text.dropWhile isDigit :=
    List.takeWhile_append_dropWhile.symm
  rw [hleading] at hcount
  cases htake : text.takeWhile isDigit with
  | nil =>
      simp only [htake, List.length_nil] at hcount
      omega
  | cons b more =>
      rw [htake] at hdigits htext
      obtain ⟨hdigit, hmore⟩ := List.forall_mem_cons.mp hdigits
      exact ⟨b, more, htext, hdigit, hmore, noDigit_dropWhile text⟩

/-- What is read behind the digits before the point, from there on. -/
def Continues (text rest : Bytes) : Prop :=
  ∃ fraction exponent, text = fraction ++ (exponent ++ rest) ∧ Fraction fraction ∧ Exponent exponent ∧
    Delimits fraction exponent rest

theorem yields_fractionPart (isNegative : Bool) (digits : Nat) (shift : Int) (text : Bytes) :
    Yields (fractionPart isNegative digits shift text) fun (_, rest) => Continues (0x2E :: text) rest := by
  have hletter (leading : Leading) {letter : UInt8} {after : Bytes} (hletter : letter = 0x65 ∨ letter = 0x45)
      (hsome : ¬(leading.kept = 0 ∧ leading.dropped = 0))
      (hread : leadingDigits digits text = (leading, letter :: after)) :
      Yields (exponentPart isNegative leading.value (shift - leading.kept) after) fun (_, rest) =>
        Continues (0x2E :: text) rest := by
    obtain ⟨b, more, rfl, hdigit, hmore, -⟩ := exists_leadingDigits hread hsome
    refine (yields_exponentPart _ _ _ hletter after).imp ?_
    rintro ⟨_, rest⟩ ⟨exponent, hafter, hexponent, hdelimits⟩
    exact ⟨0x2E :: b :: more, exponent, by rw [hafter]; rfl, .digits hdigit hmore, hexponent, hdelimits _⟩
  fun_cases fractionPart isNegative digits shift text with
  | case1 => exact isFormal_before (by decide) _
  | case2 => exact isFormal_atNext (by decide) _
  | case3 => exact hletter _ (Or.inl rfl) ‹¬_› ‹leadingDigits _ _ = _›
  | case4 => exact hletter _ (Or.inr rfl) ‹¬_› ‹leadingDigits _ _ = _›
  | case5 _ leading hsome _ rest hsmall hlarge hread =>
      obtain ⟨b, more, rfl, hdigit, hmore, hrest⟩ := exists_leadingDigits hread hsome
      refine (yields_floatingNumber _ _ _ _).imp ?_
      rintro ⟨_, _⟩ rfl
      refine ⟨0x2E :: b :: more, [], rfl, .digits hdigit hmore, .none, ?_⟩
      rintro c hc
      obtain ⟨after, rfl⟩ := List.head?_eq_some_iff.mp hc
      refine ⟨hrest c hc, fun _ => ⟨?_, ?_, fun hnil => (by cases hnil)⟩⟩
      · rintro rfl
        exact hsmall after rfl
      · rintro rfl
        exact hlarge after rfl

theorem continues_of_none {text : Bytes} (hdigit : NoDigit text) (hpoint : ∀ rest, text = 0x2E :: rest → False)
    (hsmall : ∀ rest, text = 0x65 :: rest → False) (hlarge : ∀ rest, text = 0x45 :: rest → False) :
    Continues text text := by
  refine ⟨[], [], rfl, .none, .none, fun c hc => ?_⟩
  obtain ⟨after, rfl⟩ := List.head?_eq_some_iff.mp hc
  refine ⟨hdigit c hc, fun _ => ⟨?_, ?_, fun _ => ?_⟩⟩
  · rintro rfl
    exact hsmall after rfl
  · rintro rfl
    exact hlarge after rfl
  · rintro rfl
    exact hpoint after rfl

theorem yields_afterInteger (isNegative : Bool) (digits dropped : Nat) {text : Bytes} (hdigit : NoDigit text) :
    Yields (afterInteger isNegative digits dropped text) fun (_, rest) => Continues text rest := by
  have hletter {letter : UInt8} (hletter : letter = 0x65 ∨ letter = 0x45) (after : Bytes) :
      Yields (exponentPart isNegative digits dropped after) fun (_, rest) => Continues (letter :: after) rest := by
    refine (yields_exponentPart _ _ _ hletter after).imp ?_
    rintro ⟨_, rest⟩ ⟨exponent, hafter, hexponent, hdelimits⟩
    exact ⟨[], exponent, hafter, .none, hexponent, hdelimits _⟩
  fun_cases afterInteger isNegative digits dropped text with
  | case1 rest => exact yields_fractionPart _ _ _ rest
  | case2 rest => exact hletter (Or.inl rfl) rest
  | case3 rest => exact hletter (Or.inr rfl) rest
  | case5 | case7 => exact continues_of_none hdigit ‹_› ‹_› ‹_›
  | _ =>
      refine (yields_floatingNumber _ _ _ _).imp ?_
      rintro ⟨_, _⟩ rfl
      exact continues_of_none hdigit ‹_› ‹_› ‹_›

/-- A number after its sign. -/
def Unsigned (text rest : Bytes) : Prop :=
  ∃ whole after, text = whole ++ after ∧ Whole whole ∧ Continues after rest

theorem yields_unsignedNumber (isNegative : Bool) (text : Bytes) :
    Yields (unsignedNumber isNegative text) fun (_, rest) => Unsigned text rest := by
  have hwhole {whole after : Bytes} (hwhole : Whole whole) (hdigit : NoDigit after) (digits dropped : Nat) :
      Yields (afterInteger isNegative digits dropped after) fun (_, rest) => Unsigned (whole ++ after) rest := by
    refine (yields_afterInteger isNegative digits dropped hdigit).imp ?_
    rintro ⟨_, rest⟩ hcontinues
    exact ⟨whole, after, rfl, hwhole, hcontinues⟩
  fun_cases unsignedNumber isNegative text with
  | case1 => exact isFormal_before (by decide) _
  | case2 => exact isFormal_atNext (by decide) _
  | case3 d after hdigit =>
      refine hwhole .zero ?_ 0 0
      rintro _ ⟨⟩
      exact Bool.eq_false_iff.mpr hdigit
  | case4 => exact hwhole .zero stops_nil.isDigit 0 0
  | case5 b after hzero hdigit leading rest hread =>
      obtain ⟨more, hafter, hmore⟩ := exists_digits after
      have hrest : after.dropWhile isDigit = rest := by
        rw [← (Prod.mk.inj hread).2, List.dropWhile_cons_of_pos hdigit]
      rw [hafter, ← List.cons_append, hrest]
      exact hwhole (.digits hzero hdigit hmore) (hrest ▸ noDigit_dropWhile after) _ _
  | case6 => exact isFormal_before (by decide) _

/-- What is read as a number is one, and what is left does not belong to it. -/
theorem yields_number (text : Bytes) :
    Yields (number text) fun (_, rest) => ∃ numeral, text = numeral ++ rest ∧ NumeralTo rest numeral := by
  fun_cases number text with
  | case1 unsigned =>
      refine (yields_unsignedNumber true unsigned).imp ?_
      rintro ⟨_, rest⟩ ⟨whole, _, rfl, hwhole, fraction, exponent, rfl, hfraction, hexponent, hdelimits⟩
      exact ⟨_, by simp, .negative hwhole hfraction hexponent hdelimits⟩
  | case2 =>
      refine (yields_unsignedNumber false text).imp ?_
      rintro ⟨_, rest⟩ ⟨whole, _, rfl, hwhole, fraction, exponent, rfl, hfraction, hexponent, hdelimits⟩
      exact ⟨_, by simp, .natural hwhole hfraction hexponent hdelimits⟩

end ClockWarden.Json
