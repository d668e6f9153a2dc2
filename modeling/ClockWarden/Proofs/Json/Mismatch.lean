import ClockWarden.Proofs.Json.Numbers

/-! Values of another type than what was asked for. A value is known by the bytes that it begins with
(`Begins`), and it is refused for its type as soon as these have been read, whatever stands behind them
(`wrongType_of_begins`); every other fault is one of the form of the text (`wrongType_outcome`), and so is a
number that is too large for any value (`wrongType_of_tooLarge`). -/

namespace ClockWarden.Json

/-- What a value is, told from the bytes that it begins with: a word, a number or a literal has to be whole, a
list or an object only has to be opened. A number has to have a value. -/
inductive Begins : Found → Bytes → Prop
  | null (rest : Bytes) : Begins .null (0x6E :: (nullTail ++ rest))
  | true (rest : Bytes) : Begins (.boolean true) (0x74 :: (trueTail ++ rest))
  | false (rest : Bytes) : Begins (.boolean false) (0x66 :: (falseTail ++ rest))
  | number {numeral rest : Bytes} {n : Number} (hnumeral : NumeralTo rest numeral)
      (hvalue : numberOf numeral = .ok n) : Begins (.number n) (numeral ++ rest)
  | string {spelled : Bytes} {text : String} (spells : Says spelled text) (rest : Bytes) :
      Begins (.string text) (0x22 :: (spelled ++ 0x22 :: rest))
  | list (rest : Bytes) : Begins .list (0x5B :: rest)
  | object (rest : Bytes) : Begins .object (0x7B :: rest)

/-- A text that begins with a number which is too large for any value. -/
inductive TooLarge : Bytes → Prop
  | numeral {numeral rest : Bytes} (hnumeral : NumeralTo rest numeral)
      (hvalue : numberOf numeral = .error (.unplaced .numberTooLarge)) : TooLarge (numeral ++ rest)

/-- A number has a value, or it is too large for any. -/
theorem NumeralTo.begins_or_tooLarge {numeral rest : Bytes} (h : NumeralTo rest numeral) :
    (∃ n, Begins (.number n) (numeral ++ rest)) ∨ TooLarge (numeral ++ rest) := by
  rcases h.settles.1 with ⟨n, hvalue⟩ | hvalue
  · exact Or.inl ⟨n, .number h hvalue⟩
  · exact Or.inr (.numeral h hvalue)

theorem exists_cons_of_tooLarge {text : Bytes} (h : TooLarge text) :
    ∃ b rest, text = b :: rest ∧ startsNumber b = true := by
  cases h with
  | numeral hnumeral hvalue =>
      obtain ⟨b, more, rfl, hb⟩ := startsNumber_of_numeral hnumeral.numeral
      exact ⟨b, _, rfl, hb⟩

theorem wrongType_of_startsNumber {b : UInt8} (h : startsNumber b = true) (expected : String)
    (rest : Bytes) :
    wrongType expected (b :: rest) =
      match number (b :: rest) with
      | .error fault => fault
      | .ok (n, after) => .before (.wrongType (.number n) expected) after := by
  unfold wrongType
  refine (if_neg (ne_of_startsNumber h (by decide))).trans ?_
  refine (if_neg (ne_of_startsNumber h (by decide))).trans ?_
  refine (if_neg (ne_of_startsNumber h (by decide))).trans ?_
  exact if_pos h

/-- A number is refused for its type as far as it has a value. -/
theorem wrongType_of_numeral {numeral rest : Bytes} (h : NumeralTo rest numeral) (expected : String) :
    ∃ unread, wrongType expected (numeral ++ rest) =
      match numberOf numeral with
      | .ok n => .before (.wrongType (.number n) expected) unread
      | .error fault => { fault with unread := some unread } := by
  have hsettles := settles_number h
  obtain ⟨b, more, rfl, hb⟩ := startsNumber_of_numeral h.numeral
  rw [List.cons_append] at hsettles ⊢
  rw [wrongType_of_startsNumber hb]
  generalize number (b :: (more ++ rest)) = reading at hsettles
  generalize numberOf (b :: more) = verdict at hsettles
  cases hsettles with
  | ok n => exact ⟨rest, rfl⟩
  | error fault unread => exact ⟨unread, rfl⟩

theorem wrongType_of_tooLarge {text : Bytes} (h : TooLarge text) (expected : String) :
    ∃ unread, wrongType expected text = .before .numberTooLarge unread := by
  cases h with
  | numeral hnumeral hvalue =>
      obtain ⟨unread, hfault⟩ := wrongType_of_numeral hnumeral expected
      rw [hvalue] at hfault
      exact ⟨unread, hfault⟩

theorem wrongType_of_begins {found : Found} {text : Bytes} (h : Begins found text) (expected : String) :
    ∃ unread, wrongType expected text = .before (.wrongType found expected) unread := by
  cases h with
  | number hnumeral hvalue =>
      obtain ⟨unread, hfault⟩ := wrongType_of_numeral hnumeral expected
      rw [hvalue] at hfault
      exact ⟨unread, hfault⟩
  | string spells rest =>
      refine ⟨rest, ?_⟩
      simp [wrongType, literalText_eq_ok spells, startsNumber, isDigit]
  | list rest => exact ⟨_, rfl⟩
  | object rest => exact ⟨_, rfl⟩
  | null rest | true rest | false rest =>
      refine ⟨rest, ?_⟩
      simp [wrongType, word_append]

/-- A value is refused for what it is, or for its form. -/
theorem wrongType_outcome (expected : String) (text : Bytes) :
    (∃ found, Begins found text) ∨ (wrongType expected text).IsFormal := by
  have hword (letters rest : Bytes) (fault : Fault)
      (hfound : ∀ after, rest = letters ++ after → ∃ found, Begins found text)
      (hfault : ∀ other, word letters rest = .error other → fault = other) :
      (∃ found, Begins found text) ∨ fault.IsFormal := by
    cases hrest : word letters rest with
    | ok after => exact Or.inl (hfound after ((yields_word _ _).of_ok hrest))
    | error other =>
        rw [hfault other hrest]
        exact Or.inr ((yields_word _ _).of_error hrest)
  fun_cases wrongType expected text with
  | case1 => exact Or.inr (isFormal_before (by decide) _)
  | case2 rest =>
      refine hword nullTail rest _ ?_ fun other hother => by rw [hother]
      rintro after rfl
      exact ⟨_, .null after⟩
  | case3 rest =>
      refine hword trueTail rest _ ?_ fun other hother => by rw [hother]
      rintro after rfl
      exact ⟨_, .true after⟩
  | case4 rest =>
      refine hword falseTail rest _ ?_ fun other hother => by rw [hother]
      rintro after rfl
      exact ⟨_, .false after⟩
  | case5 b rest _ _ _ _ fault hfault => exact Or.inr ((yields_number _).of_error hfault)
  | case6 b rest _ _ _ _ n after hread =>
      obtain ⟨numeral, htext, hnumeral⟩ := (yields_number _).of_ok hread
      rw [htext] at hread ⊢
      exact Or.inl ⟨_, .number hnumeral ((settles_number hnumeral).value_eq hread)⟩
  | case7 rest fault hfault => exact Or.inr ((yields_literalText _).of_error hfault)
  | case8 rest s after hread =>
      obtain ⟨spelled, rfl, hspells⟩ := (yields_literalText _).of_ok hread
      exact Or.inl ⟨_, .string hspells _⟩
  | case9 rest => exact Or.inl ⟨_, .list rest⟩
  | case10 rest => exact Or.inl ⟨_, .object rest⟩
  | case11 => exact Or.inr (isFormal_atNext (by decide) _)

/-! ### Readings that look at the data -/

section Sorts

variable {α β : Type} {P : α → Prop} {Q : Prop} {reading : Except Fault α}

/-- A reading gives what has a property, or fails by the form of the text, or something is the matter with the
data. -/
def Sorts (reading : Except Fault α) (P : α → Prop) (Q : Prop) : Prop :=
  match reading with
  | .ok a => P a
  | .error fault => fault.IsFormal ∨ Q

theorem Yields.sorts (h : Yields reading P) : Sorts reading P Q := by
  cases reading with
  | ok a => exact h
  | error fault => exact Or.inl h

theorem Sorts.imp {P' : α → Prop} {Q' : Prop} (h : Sorts reading P Q) (hP : ∀ a, P a → P' a)
    (hQ : Q → Q') : Sorts reading P' Q' := by
  cases reading with
  | ok a => exact hP a h
  | error fault => exact Or.imp_right hQ h

theorem Sorts.bind {next : α → Except Fault β} {R : β → Prop} (h : Sorts reading P Q)
    (hnext : ∀ a, P a → Sorts (next a) R Q) : Sorts (reading >>= next) R Q := by
  cases reading with
  | ok a => exact hnext a h
  | error fault => exact h

theorem Sorts.map {f : α → β} {R : β → Prop} (h : Sorts reading (fun a => R (f a)) Q) :
    Sorts (reading.map f) R Q := by
  cases reading with
  | ok a => exact h
  | error fault => exact h

/-- A fault is no other for being found in a member. -/
theorem Sorts.placed (h : Sorts reading P Q) (place : Option Place) :
    Sorts (reading.mapError fun fault => { fault with place := place }) P Q := by
  cases reading with
  | ok a => exact h
  | error fault => exact h

theorem Sorts.of_ok (h : Sorts reading P Q) {a : α} (hread : reading = .ok a) : P a := by
  rw [hread] at h
  exact h

theorem Sorts.of_error (h : Sorts reading P Q) {fault : Fault} (hread : reading = .error fault) :
    fault.IsFormal ∨ Q := by
  rw [hread] at h
  exact h

end Sorts

/-- A text, or nothing. -/
inductive Nullable : Option String → Bytes → Prop
  | null : Nullable none (0x6E :: nullTail)
  | text {spelled : Bytes} {text : String} (spells : Says spelled text) :
      Nullable (some text) (0x22 :: (spelled ++ [0x22]))

/-- A value that may stand where a text or nothing is asked for. -/
def Found.IsNullable (found : Found) : Prop := found = .null ∨ ∃ text, found = .string text

/-- A value that may stand where a record is asked for. -/
def Found.IsRecord (found : Found) : Prop := found = .list ∨ found = .object

theorem exists_cons_of_nullable {given : Option String} {value : Bytes} (h : Nullable given value) :
    ∃ b rest, value = b :: rest ∧ isBlank b = false ∧ b ≠ 0x5D := by
  cases h <;> exact ⟨_, _, rfl, by decide⟩

section Nullable

variable {blanks value : Bytes} {found : Found}

theorem optional_string_of_nullable (hblanks : Blanks blanks) {given : Option String}
    (h : Nullable given value) (rest : Bytes) :
    optional string (blanks ++ (value ++ rest)) = .ok (given, rest) := by
  cases h with
  | null =>
      rw [optional, List.cons_append, skipBlanks_append hblanks (by decide)]
      simp only [word_append]
      rfl
  | text spells =>
      rw [List.cons_append, List.append_assoc, List.singleton_append]
      refine optional_of_read (skipBlanks_append hblanks (by decide) _) (by decide) ?_
      rw [string, stringAs, ← List.nil_append (0x22 :: _), skipBlanks_append blanks_nil (by decide)]
      exact literalText_eq_ok spells rest

/-- What may stand for a value is known by its first byte. -/
theorem exists_cons_of_begins (h : Begins found value) :
    ∃ b rest, value = b :: rest ∧ isBlank b = false ∧ b ≠ 0x5D ∧
      (found.IsNullable ↔ b = 0x6E ∨ b = 0x22) ∧ (found.IsRecord ↔ b = 0x5B ∨ b = 0x7B) := by
  cases h with
  | number hnumeral hvalue =>
      obtain ⟨b, more, rfl, hb⟩ := startsNumber_of_numeral hnumeral.numeral
      have hne {other : UInt8} (hother : startsNumber other = false) : b ≠ other :=
        ne_of_startsNumber hb hother
      refine ⟨b, _, rfl, isBlank_of_startsNumber hb, hne (by decide), ?_, ?_⟩
      · exact iff_of_false (by simp [Found.IsNullable]) (not_or.mpr ⟨hne (by decide), hne (by decide)⟩)
      · exact iff_of_false (by simp [Found.IsRecord]) (not_or.mpr ⟨hne (by decide), hne (by decide)⟩)
  | _ =>
      exact ⟨_, _, rfl, by decide, by decide, by simp [Found.IsNullable], by simp [Found.IsRecord]⟩

theorem stringAs_cons {b : UInt8} (h : isBlank b = false) (expected : String) (rest : Bytes) :
    stringAs expected (b :: rest) =
      if b = 0x22 then literalText rest else .error (wrongType expected (b :: rest)) := by
  rw [stringAs, ← List.nil_append (b :: rest), skipBlanks_append blanks_nil h]
  rfl

theorem optional_string_cons (hblanks : Blanks blanks) {b : UInt8} (h : isBlank b = false) (hnull : b ≠ 0x6E)
    (rest : Bytes) :
    optional string (blanks ++ b :: rest) = (string (b :: rest)).map fun (s, rest) => (some s, rest) := by
  unfold optional
  rw [skipBlanks_append hblanks h]
  split
  · rename_i heq
    exact absurd (List.cons.inj heq).1 hnull
  · cases string (b :: rest) <;> rfl

theorem optional_string_of_other (hblanks : Blanks blanks) {b : UInt8} (h : isBlank b = false)
    (hnull : b ≠ 0x6E) (hquote : b ≠ 0x22) (rest : Bytes) :
    optional string (blanks ++ b :: rest) = .error (wrongType "a string" (b :: rest)) := by
  rw [optional_string_cons hblanks h hnull, string, stringAs_cons h, if_neg hquote]
  rfl

theorem optional_string_of_begins (hblanks : Blanks blanks) (h : Begins found value)
    (hfound : ¬found.IsNullable) :
    ∃ unread, optional string (blanks ++ value) = .error (.before (.wrongType found "a string") unread) := by
  obtain ⟨b, rest, rfl, hblank, -, hnullable, -⟩ := exists_cons_of_begins h
  obtain ⟨hnull, hquote⟩ := not_or.mp (mt hnullable.mpr hfound)
  obtain ⟨unread, hfault⟩ := wrongType_of_begins h "a string"
  refine ⟨unread, ?_⟩
  rw [optional_string_of_other hblanks hblank hnull hquote, hfault]

theorem optional_string_of_tooLarge (hblanks : Blanks blanks) (h : TooLarge value) :
    ∃ unread, optional string (blanks ++ value) = .error (.before .numberTooLarge unread) := by
  obtain ⟨unread, hfault⟩ := wrongType_of_tooLarge h "a string"
  obtain ⟨b, rest, rfl, hb⟩ := exists_cons_of_tooLarge h
  refine ⟨unread, ?_⟩
  rw [optional_string_of_other hblanks (isBlank_of_startsNumber hb) (ne_of_startsNumber hb (by decide))
    (ne_of_startsNumber hb (by decide)), hfault]

/-- A text is read where a quote stands, and any other value is refused for what it is. -/
theorem sorts_string_cons {b : UInt8} (h : isBlank b = false) (rest : Bytes) :
    Sorts (string (b :: rest))
      (fun (s, after) => ∃ spelled, b :: rest = 0x22 :: (spelled ++ 0x22 :: after) ∧ Says spelled s)
      (b ≠ 0x22 ∧ ∃ found, Begins found (b :: rest)) := by
  rw [string, stringAs_cons h]
  split_ifs with hquote
  · refine (yields_literalText rest).sorts.imp ?_ id
    rintro ⟨s, after⟩ ⟨spelled, rfl, hspells⟩
    exact ⟨spelled, by rw [hquote], hspells⟩
  · exact (wrongType_outcome "a string" (b :: rest)).symm.imp_right fun hbegins => ⟨hquote, hbegins⟩

theorem sorts_optional_string (text : Bytes) :
    Sorts (optional string text)
      (fun (given, rest) => ∃ blanks value, text = blanks ++ (value ++ rest) ∧ Blanks blanks ∧
        Nullable given value)
      (∃ blanks found value, text = blanks ++ value ∧ Blanks blanks ∧ Begins found value ∧
        ¬found.IsNullable) := by
  obtain ⟨blanks, htext, hblanks⟩ := exists_blanks text
  cases hskip : skipBlanks text with
  | nil =>
      rw [optional, hskip]
      exact Or.inl (isFormal_before (by decide) _)
  | cons b rest =>
      have hblank := isBlank_of_skipBlanks hskip
      rw [hskip] at htext
      by_cases hnull : b = 0x6E
      · rw [optional, hskip, hnull]
        refine ((yields_word nullTail rest).sorts.imp ?_ id).map
        rintro after rfl
        exact ⟨blanks, _, by rw [htext, hnull]; rfl, hblanks, .null⟩
      · rw [htext, optional_string_cons hblanks hblank hnull]
        refine Sorts.map ((sorts_string_cons hblank rest).imp ?_ ?_)
        · rintro ⟨s, after⟩ ⟨spelled, hvalue, hspells⟩
          exact ⟨blanks, _, by rw [hvalue]; simp, hblanks, .text hspells⟩
        · rintro ⟨hquote, found, hbegins⟩
          refine ⟨blanks, found, _, rfl, hblanks, hbegins, ?_⟩
          obtain ⟨_, _, heq, -, -, hnullable, -⟩ := exists_cons_of_begins hbegins
          cases heq
          exact mt hnullable.mp (not_or.mpr ⟨hnull, hquote⟩)

end Nullable

/-! ### Members -/

/-- What stands in an object where a key may come next: its end, or a key. -/
inductive GoesOn (isFirst : Bool) : Bytes → Prop
  | done {blanks : Bytes} (hblanks : Blanks blanks) (rest : Bytes) : GoesOn isFirst (blanks ++ 0x7D :: rest)
  | key {separator spelled : Bytes} {name : String} (hseparator : Separates isFirst separator)
      (hname : Says spelled name) (rest : Bytes) :
      GoesOn isFirst (separator ++ 0x22 :: (spelled ++ 0x22 :: rest))

section GoesOn

variable {isFirst : Bool} {text after rest : Bytes} {name : String}

theorem goesOn_key {separator : Bytes} (hseparator : Separates isFirst separator)
    (hread : literalText after = .ok (name, rest)) : GoesOn isFirst (separator ++ 0x22 :: after) := by
  obtain ⟨spelled, rfl, hname⟩ := (yields_literalText _).of_ok hread
  exact .key hseparator hname rest

theorem goesOn_first (hfirst : ¬(!isFirst) = true) (hskip : skipBlanks text = 0x22 :: after)
    (hread : literalText after = .ok (name, rest)) : GoesOn isFirst text := by
  obtain ⟨blanks, rfl, hblanks⟩ := exists_blanks_of_eq hskip
  cases isFirst with
  | true => exact goesOn_key (.first hblanks) hread
  | false => exact absurd rfl hfirst

theorem goesOn_comma {b : UInt8} {between : Bytes} (hcomma : b = 0x2C ∧ (!isFirst) = true)
    (hskip : skipBlanks text = b :: between) (hkey : skipBlanks between = 0x22 :: after)
    (hread : literalText after = .ok (name, rest)) : GoesOn isFirst text := by
  obtain ⟨rfl, hfirst⟩ := hcomma
  obtain ⟨before, rfl, hbefore⟩ := exists_blanks_of_eq hskip
  obtain ⟨blanks, rfl, hblanks⟩ := exists_blanks_of_eq hkey
  cases isFirst with
  | true => cases hfirst
  | false =>
      rw [← List.cons_append, ← List.append_assoc]
      exact goesOn_key (.comma hbefore hblanks) hread

end GoesOn

/-- An object goes on with its end or a key, or it is refused for its form. -/
theorem Shape.readMembers_cases {σ α : Type} (shape : Shape σ α) (rounds : Nat) (isFirst : Bool) (draft : σ)
    (text : Bytes) :
    GoesOn isFirst text ∨
      ∃ fault, shape.readMembers rounds isFirst draft text = .error fault ∧ fault.IsFormal := by
  fun_cases Shape.readMembers shape rounds isFirst draft text with
  | case3 =>
      obtain ⟨blanks, rfl, hblanks⟩ := exists_blanks_of_eq ‹skipBlanks text = _›
      exact Or.inl (.done hblanks _)
  | case6 | case7 => exact Or.inl (goesOn_comma ‹_ ∧ _› ‹skipBlanks text = _› ‹_› ‹_›)
  | case12 | case13 => exact Or.inl (goesOn_first ‹¬(!isFirst) = true› ‹skipBlanks text = _› ‹_›)
  | case5 | case11 => exact Or.inr ⟨_, rfl, (yields_literalText _).of_error ‹literalText _ = _›⟩
  | case8 | case9 | case10 | case14 => exact Or.inr ⟨_, rfl, isFormal_atNext (by decide) _⟩
  | _ => exact Or.inr ⟨_, rfl, isFormal_before (by decide) _⟩

end ClockWarden.Json
