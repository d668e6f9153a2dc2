import ClockWarden.Json.Record
import ClockWarden.Proofs.Json.Members

/-! The literals of a JSON text, byte by byte. A literal spells bytes, by themselves or by escapes, and it
says a text if those bytes are text throughout; whether it is read or passed over, a reader takes exactly the
literals of the grammar (`yields_literalText`, `yields_skipLiteral`). No fault of a literal, a word or
a colon is a fault of the data (`Yields`). -/

namespace ClockWarden.Json

/-- A fault of the form of a text, or of its end. -/
def Fault.IsFormal (fault : Fault) : Prop := fault.cause.category ≠ .data

theorem isFormal_before {cause : Cause} (h : cause.category ≠ .data) (rest : Bytes) :
    (Fault.before cause rest).IsFormal := h

theorem isFormal_atNext {cause : Cause} (h : cause.category ≠ .data) (rest : Bytes) :
    (Fault.atNext cause rest).IsFormal := h

section Yields

variable {α : Type} {P Q : α → Prop} {reading : Except Fault α}

/-- A reading gives what has a property, or fails by the form of the text. -/
def Yields (reading : Except Fault α) (P : α → Prop) : Prop :=
  match reading with
  | .ok a => P a
  | .error fault => fault.IsFormal

theorem Yields.imp (h : Yields reading P) (himp : ∀ a, P a → Q a) : Yields reading Q := by
  cases reading with
  | ok a => exact himp a h
  | error fault => exact h

theorem Yields.bind {β : Type} {next : α → Except Fault β} {R : β → Prop} (h : Yields reading P)
    (hnext : ∀ a, P a → Yields (next a) R) : Yields (reading >>= next) R := by
  cases reading with
  | ok a => exact hnext a h
  | error fault => exact h

theorem Yields.of_ok (h : Yields reading P) {a : α} (hread : reading = .ok a) : P a := by
  rw [hread] at h
  exact h

theorem Yields.of_error (h : Yields reading P) {fault : Fault} (hread : reading = .error fault) :
    fault.IsFormal := by
  rw [hread] at h
  exact h

end Yields

/-! ### White space -/

theorem Blanks.append {blanks more : Bytes} (h : Blanks blanks) (hmore : Blanks more) :
    Blanks (blanks ++ more) := by
  intro b hmem
  rcases List.mem_append.mp hmem with hb | hb
  · exact h b hb
  · exact hmore b hb

theorem exists_blanks (text : Bytes) : ∃ blanks, text = blanks ++ skipBlanks text ∧ Blanks blanks :=
  ⟨text.takeWhile isBlank, List.takeWhile_append_dropWhile.symm,
    fun _ hmem => List.all_eq_true.mp List.all_takeWhile _ hmem⟩

theorem exists_blanks_of_eq {text rest : Bytes} (h : skipBlanks text = rest) :
    ∃ blanks, text = blanks ++ rest ∧ Blanks blanks := by
  rw [← h]
  exact exists_blanks text

theorem isBlank_of_skipBlanks {text rest : Bytes} {b : UInt8} (h : skipBlanks text = b :: rest) :
    isBlank b = false := by
  have hhead := List.head?_dropWhile_not isBlank text
  rw [← skipBlanks, h] at hhead
  simpa using hhead

/-! ### Literals that are read -/

/-- The bytes between the quotes of a literal, and the bytes that they spell. -/
inductive SpellsBytes : Bytes → Bytes → Prop
  | nil : SpellsBytes [] []
  | plain {b : UInt8} {spelled bytes : Bytes} (quote : b ≠ 0x22) (backslash : b ≠ 0x5C)
      (visible : ¬b < 0x20) (spells : SpellsBytes spelled bytes) : SpellsBytes (b :: spelled) (b :: bytes)
  | letter {letter b : UInt8} {spelled bytes : Bytes} (escapes : letterEscape? letter = some b)
      (spells : SpellsBytes spelled bytes) : SpellsBytes (0x5C :: letter :: spelled) (b :: bytes)
  | number {a b c d : UInt8} {n : Nat} {spelled bytes : Bytes} (quad : hexQuad? a b c d = some n)
      (whole : n < 0xD800 ∨ 0xDFFF < n) (spells : SpellsBytes spelled bytes) :
      SpellsBytes (0x5C :: 0x75 :: a :: b :: c :: d :: spelled)
        (String.utf8EncodeChar (Char.ofNat n) ++ bytes)
  | pair {a b c d e f g h : UInt8} {n m : Nat} {spelled bytes : Bytes}
      (high : hexQuad? a b c d = some n) (low : hexQuad? e f g h = some m)
      (leading : 0xD800 ≤ n ∧ n < 0xDC00) (trailing : 0xDC00 ≤ m ∧ m < 0xE000)
      (spells : SpellsBytes spelled bytes) :
      SpellsBytes (0x5C :: 0x75 :: a :: b :: c :: d :: 0x5C :: 0x75 :: e :: f :: g :: h :: spelled)
        (String.utf8EncodeChar (Char.ofNat (0x10000 + (n - 0xD800) * 1024 + (m - 0xDC00))) ++ bytes)

/-- The bytes between the quotes of a literal that says a text. -/
def Says (spelled : Bytes) (text : String) : Prop :=
  ∃ bytes, SpellsBytes spelled bytes ∧ Utf8.decode? bytes = some text

theorem reverse_pushCodePoint (n : Nat) (read : Bytes) :
    (pushCodePoint n read).reverse = read.reverse ++ String.utf8EncodeChar (Char.ofNat n) := by
  rw [pushCodePoint, List.reverse_append, List.reverse_reverse]

theorem literalBytes_of_spells {spelled bytes : Bytes} (h : SpellsBytes spelled bytes) (read rest : Bytes) :
    literalBytes read (spelled ++ 0x22 :: rest) = .ok (read.reverse ++ bytes, rest) := by
  induction h generalizing read with
  | nil => simp [literalBytes]
  | plain quote backslash visible _ ih =>
      rw [List.cons_append, literalBytes_plain _ _ quote backslash visible, ih]
      simp
  | letter escapes _ ih =>
      rw [List.cons_append, List.cons_append, literalBytes_letter _ _ escapes, ih]
      simp
  | number quad whole _ ih =>
      simp only [List.cons_append]
      rw [literalBytes_number _ _ quad whole, ih, reverse_pushCodePoint, List.append_assoc]
  | pair high low leading trailing _ ih =>
      simp only [List.cons_append]
      rw [literalBytes_pair _ _ high low leading trailing, ih, reverse_pushCodePoint, List.append_assoc]

/-- A byte that no escape begins with is no backslash, as a literal goes on behind it. -/
theorem ne_backslash {b : UInt8} {spelled rest : Bytes}
    (h : ∀ e after, b = 0x5C → spelled ++ 0x22 :: rest = e :: after → False) : b ≠ 0x5C := by
  intro hb
  cases spelled with
  | nil => exact h _ _ hb rfl
  | cons e spelled => exact h _ _ hb rfl

theorem yields_literalBytes (read text : Bytes) :
    Yields (literalBytes read text) fun (result, rest) => ∃ spelled bytes,
      text = spelled ++ 0x22 :: rest ∧ result = read.reverse ++ bytes ∧ SpellsBytes spelled bytes := by
  fun_induction literalBytes read text with
  | case2 read rest =>
      refine ⟨[], [], ?_, (List.append_nil _).symm, .nil⟩
      rw [List.nil_append]
  | case6 read a b c d rest n hquad hlow hwhole ih =>
      refine ih.imp ?_
      rintro ⟨_, after⟩ ⟨spelled, bytes, rfl, rfl, hspells⟩
      refine ⟨_, _, rfl, ?_, .number hquad hwhole hspells⟩
      rw [reverse_pushCodePoint, List.append_assoc]
  | case11 read a b c d n hhigh hlow hwhole e f g h rest m hquad htrailing ih =>
      refine ih.imp ?_
      rintro ⟨result, after⟩ ⟨spelled, bytes, htext, hresult, hspells⟩
      refine ⟨_, _, ?_, ?_, .pair hhigh hquad (by omega) (by omega) hspells⟩
      · rw [htext]
        rfl
      · rw [hresult, reverse_pushCodePoint, List.append_assoc]
  | case16 read letter rest hnumber hu b hescape ih =>
      refine ih.imp ?_
      rintro ⟨_, after⟩ ⟨spelled, bytes, rfl, rfl, hspells⟩
      refine ⟨_, _, rfl, ?_, .letter hescape hspells⟩
      simp
  | case19 read b rest hquote hend hnumber hshort hescape hvisible ih =>
      refine ih.imp ?_
      rintro ⟨_, after⟩ ⟨spelled, bytes, rfl, rfl, hspells⟩
      refine ⟨_, _, rfl, ?_, .plain hquote (ne_backslash hescape) hvisible hspells⟩
      simp
  | _ => exact isFormal_before (by decide) _

theorem yields_literalText (text : Bytes) :
    Yields (literalText text) fun (s, rest) => ∃ spelled, text = spelled ++ 0x22 :: rest ∧
      Says spelled s := by
  have hyields := yields_literalBytes [] text
  fun_cases literalText text with
  | case1 fault hfault => exact hyields.of_error hfault
  | case2 bytes rest hread s hs =>
      obtain ⟨spelled, bytes, rfl, rfl, hspells⟩ := hyields.of_ok hread
      exact ⟨spelled, rfl, bytes, hspells, hs⟩
  | case3 => exact isFormal_before (by decide) _

theorem literalText_eq_ok {spelled : Bytes} {s : String} (h : Says spelled s) (rest : Bytes) :
    literalText (spelled ++ 0x22 :: rest) = .ok (s, rest) := by
  obtain ⟨bytes, hspells, hs⟩ := h
  have hbytes := literalBytes_of_spells hspells [] rest
  rw [List.reverse_nil, List.nil_append] at hbytes
  simp only [literalText, hbytes, hs]

theorem says_of_literalText {spelled : Bytes} {s : String}
    (h : literalText (spelled ++ [0x22]) = .ok (s, [])) : Says spelled s := by
  obtain ⟨_, htext, hsays⟩ := (yields_literalText _).of_ok h
  rwa [List.append_cancel_right htext]

/-- A visible text without quotes and backslashes says itself. -/
theorem says_of_visible {s : String} (h : ∀ c ∈ s.toList, c ≠ '"' ∧ c ≠ '\\' ∧ 0x20 ≤ c.toNat) :
    Says (Utf8.encode s) s :=
  says_of_literalText (literalText_spells [] (spells_self h))

/-! ### Literals that are passed over -/

/-- The bytes between the quotes of a literal whose value nobody wants. -/
inductive Literal : Bytes → Prop
  | nil : Literal []
  | plain {b : UInt8} {rest : Bytes} (quote : b ≠ 0x22) (backslash : b ≠ 0x5C) (visible : ¬b < 0x20)
      (more : Literal rest) : Literal (b :: rest)
  | letter {letter b : UInt8} {rest : Bytes} (escapes : letterEscape? letter = some b)
      (more : Literal rest) : Literal (0x5C :: letter :: rest)
  | number {a b c d : UInt8} {n : Nat} {rest : Bytes} (quad : hexQuad? a b c d = some n)
      (more : Literal rest) : Literal (0x5C :: 0x75 :: a :: b :: c :: d :: rest)

theorem skipLiteral_of_literal {literal : Bytes} (h : Literal literal) (rest : Bytes) :
    skipLiteral (literal ++ 0x22 :: rest) = .ok rest := by
  induction h with
  | nil => rfl
  | plain quote backslash visible _ ih =>
      rw [List.cons_append, skipLiteral]
      · rw [if_neg visible, ih]
      all_goals simp_all
  | letter escapes _ ih =>
      rw [List.cons_append, List.cons_append, skipLiteral]
      · simp only [escapes, ih]
      all_goals
        intros
        subst_vars
        simp_all [letterEscape?]
  | number quad _ ih =>
      simp only [List.cons_append, skipLiteral, quad, ih]

theorem yields_skipLiteral (text : Bytes) :
    Yields (skipLiteral text) fun rest => ∃ literal, text = literal ++ 0x22 :: rest ∧ Literal literal := by
  fun_induction skipLiteral text with
  | case2 rest =>
      refine ⟨[], ?_, .nil⟩
      rw [List.nil_append]
  | case5 a b c d rest n hquad ih =>
      refine ih.imp ?_
      rintro after ⟨literal, rfl, hliteral⟩
      exact ⟨_, rfl, .number hquad hliteral⟩
  | case7 letter rest hnumber hu b hescape ih =>
      refine ih.imp ?_
      rintro after ⟨literal, rfl, hliteral⟩
      exact ⟨_, rfl, .letter hescape hliteral⟩
  | case10 b rest hquote hend hnumber hshort hescape hvisible ih =>
      refine ih.imp ?_
      rintro after ⟨literal, rfl, hliteral⟩
      exact ⟨_, rfl, .plain hquote (ne_backslash hescape) hvisible hliteral⟩
  | _ => exact isFormal_before (by decide) _

/-! ### Words and colons -/

theorem word_append (letters rest : Bytes) : word letters (letters ++ rest) = .ok rest := by
  induction letters with
  | nil => rfl
  | cons letter letters ih => rw [List.cons_append, word, if_pos rfl, ih]

theorem yields_word (letters text : Bytes) :
    Yields (word letters text) fun rest => text = letters ++ rest := by
  fun_induction word letters text with
  | case1 text => exact (List.nil_append text).symm
  | case3 b letters rest ih =>
      refine ih.imp ?_
      rintro after rfl
      rfl
  | _ => exact isFormal_before (by decide) _

theorem ne_of_startsNumber {b other : UInt8} (h : startsNumber b = true)
    (hother : startsNumber other = false) : b ≠ other := by
  rintro rfl
  rw [h] at hother
  cases hother

theorem isBlank_of_startsNumber {b : UInt8} (h : startsNumber b = true) : isBlank b = false := by
  simp [isBlank, ne_of_startsNumber h (show startsNumber 0x20 = false by decide),
    ne_of_startsNumber h (show startsNumber 0x0A = false by decide),
    ne_of_startsNumber h (show startsNumber 0x09 = false by decide),
    ne_of_startsNumber h (show startsNumber 0x0D = false by decide)]

theorem yields_colon (text : Bytes) :
    Yields (colon text) fun rest => ∃ blanks, text = blanks ++ 0x3A :: rest ∧ Blanks blanks := by
  fun_cases colon text with
  | case1 => exact isFormal_before (by decide) _
  | case2 rest hskip => exact exists_blanks_of_eq hskip
  | case3 => exact isFormal_atNext (by decide) _

end ClockWarden.Json
