import ClockWarden.Json.Literal
import ClockWarden.Proofs.Text.Utf8
import Mathlib.Tactic.IntervalCases
import Mathlib.Tactic.SplitIfs

/-! The spellings of a text between double quotes. A character stands for itself unless it is a quote, a
backslash or a control, and any character may be spelled by an escape: some by a letter, and all by the
hexadecimal digits of their number, or of the two halves of a surrogate pair. A reader takes every
spelling of a text (`literalText_spells`), and what is written is one of them (`spells_literal`). -/

namespace ClockWarden.Json

/-- A hexadecimal digit of a value, in either case. -/
def IsHexDigit (digit : Char) (value : Nat) : Prop :=
  value < 16 ∧ (digit = hexDigit value ∨ digit = (hexDigit value).toUpper)

/-- Four hexadecimal digits of a value. -/
inductive HexQuad : List Char → Nat → Prop
  | digits {a b c d : Char} {w x y z : Nat} (first : IsHexDigit a w) (second : IsHexDigit b x)
      (third : IsHexDigit c y) (fourth : IsHexDigit d z) :
      HexQuad [a, b, c, d] (w * 4096 + x * 256 + y * 16 + z)

/-- The letters that escape a character. -/
def letterEscapes : List (Char × Char) :=
  [('"', '"'), ('\\', '\\'), ('/', '/'), ('b', '\x08'), ('f', '\x0c'), ('n', '\n'), ('r', '\r'),
    ('t', '\t')]

/-- The spellings of a character. -/
inductive SpellsChar : List Char → Char → Prop
  | raw {c : Char} (quote : c ≠ '"') (backslash : c ≠ '\\') (visible : 0x20 ≤ c.toNat) : SpellsChar [c] c
  | letter {letter c : Char} (escapes : (letter, c) ∈ letterEscapes) : SpellsChar ['\\', letter] c
  | number {digits : List Char} {c : Char} (quad : HexQuad digits c.toNat) :
      SpellsChar ('\\' :: 'u' :: digits) c
  | pair {high low : List Char} {n m : Nat} {c : Char} (first : HexQuad high n) (second : HexQuad low m)
      (leading : 0xD800 ≤ n ∧ n < 0xDC00) (trailing : 0xDC00 ≤ m ∧ m < 0xE000)
      (joined : c.toNat = 0x10000 + (n - 0xD800) * 1024 + (m - 0xDC00)) :
      SpellsChar ('\\' :: 'u' :: high ++ '\\' :: 'u' :: low) c

/-- The spellings of a text. -/
inductive Spells : List Char → List Char → Prop
  | nil : Spells [] []
  | cons {first rest text : List Char} {c : Char} (char : SpellsChar first c) (spells : Spells rest text) :
      Spells (first ++ rest) (c :: text)

/-- A visible text without quotes and backslashes spells itself. -/
theorem spells_self {text : List Char} (h : ∀ c ∈ text, c ≠ '"' ∧ c ≠ '\\' ∧ 0x20 ≤ c.toNat) :
    Spells text text := by
  induction text with
  | nil => exact .nil
  | cons c rest ih =>
      obtain ⟨⟨hquote, hbackslash, hvisible⟩, hrest⟩ := List.forall_mem_cons.mp h
      exact .cons (.raw hquote hbackslash hvisible) (ih hrest)

/-! ### Reading -/

section Reading

variable (read rest : Bytes)

/-- A byte that is no quote, no backslash and no control stands for itself. -/
theorem literalBytes_plain {b : UInt8} (hquote : b ≠ 0x22) (hbackslash : b ≠ 0x5C)
    (hvisible : ¬b < 0x20) :
    literalBytes read (b :: rest) = literalBytes (b :: read) rest := by
  rw [literalBytes]
  · rw [if_neg hvisible]
  all_goals simp_all

theorem literalBytes_letter {letter b : UInt8} (h : letterEscape? letter = some b) :
    literalBytes read (0x5C :: letter :: rest) = literalBytes (b :: read) rest := by
  rw [literalBytes]
  · rw [h]
  all_goals
    intros
    subst_vars
    simp_all [letterEscape?]

theorem literalBytes_number {a b c d : UInt8} {n : Nat} (h : hexQuad? a b c d = some n)
    (hwhole : n < 0xD800 ∨ 0xDFFF < n) :
    literalBytes read (0x5C :: 0x75 :: a :: b :: c :: d :: rest) =
      literalBytes (pushCodePoint n read) rest := by
  rw [literalBytes]
  simp only [h]
  rw [if_neg (by omega), if_pos hwhole]

theorem literalBytes_pair {a b c d e f g h : UInt8} {n m : Nat} (hhigh : hexQuad? a b c d = some n)
    (hlow : hexQuad? e f g h = some m) (hleading : 0xD800 ≤ n ∧ n < 0xDC00)
    (htrailing : 0xDC00 ≤ m ∧ m < 0xE000) :
    literalBytes read
        (0x5C :: 0x75 :: a :: b :: c :: d :: 0x5C :: 0x75 :: e :: f :: g :: h :: rest) =
      literalBytes (pushCodePoint (0x10000 + (n - 0xD800) * 1024 + (m - 0xDC00)) read) rest := by
  rw [literalBytes]
  simp only [hhigh, hlow]
  rw [if_neg (by omega), if_neg (by omega), if_neg (by omega)]

theorem literalBytes_plain_append {bytes : Bytes}
    (h : ∀ b ∈ bytes, b ≠ 0x22 ∧ b ≠ 0x5C ∧ ¬b < 0x20) :
    literalBytes read (bytes ++ rest) = literalBytes (bytes.reverse ++ read) rest := by
  induction bytes generalizing read with
  | nil => rfl
  | cons b bytes ih =>
      rw [List.forall_mem_cons] at h
      obtain ⟨⟨hquote, hbackslash, hvisible⟩, hbytes⟩ := h
      rw [List.cons_append, literalBytes_plain _ _ hquote hbackslash hvisible, ih _ hbytes,
        List.reverse_cons, List.append_assoc, List.singleton_append]

/-- The byte of a hexadecimal digit has its value. -/
theorem hexValue?_of_isHexDigit {digit : Char} {value : Nat} (h : IsHexDigit digit value) :
    ∃ b, String.utf8EncodeChar digit = [b] ∧ hexValue? b = some value := by
  obtain ⟨hvalue, rfl | rfl⟩ := h
  · interval_cases value <;> exact ⟨_, rfl, rfl⟩
  · interval_cases value <;> exact ⟨_, rfl, rfl⟩

theorem hexQuad?_of_hexQuad {digits : List Char} {n : Nat} (h : HexQuad digits n) :
    ∃ a b c d, digits.flatMap String.utf8EncodeChar = [a, b, c, d] ∧ hexQuad? a b c d = some n := by
  cases h with
  | digits first second third fourth =>
      obtain ⟨a, ha, hw⟩ := hexValue?_of_isHexDigit first
      obtain ⟨b, hb, hx⟩ := hexValue?_of_isHexDigit second
      obtain ⟨c, hc, hy⟩ := hexValue?_of_isHexDigit third
      obtain ⟨d, hd, hz⟩ := hexValue?_of_isHexDigit fourth
      exact ⟨a, b, c, d, by simp [ha, hb, hc, hd], by simp [hexQuad?, hw, hx, hy, hz]⟩

theorem letterEscape?_of_mem {letter c : Char} (h : (letter, c) ∈ letterEscapes) :
    ∃ b e, String.utf8EncodeChar letter = [b] ∧ String.utf8EncodeChar c = [e] ∧
      letterEscape? b = some e := by
  have hcases : ∀ escape ∈ letterEscapes,
      String.utf8EncodeChar escape.1 = [UInt8.ofNat escape.1.toNat] ∧
      String.utf8EncodeChar escape.2 = [UInt8.ofNat escape.2.toNat] ∧
      letterEscape? (UInt8.ofNat escape.1.toNat) = some (UInt8.ofNat escape.2.toNat) := by
    decide
  exact ⟨_, _, hcases _ h⟩

theorem plain_of_mem {c : Char} (hquote : c ≠ '"') (hbackslash : c ≠ '\\') (hvisible : 0x20 ≤ c.toNat) :
    ∀ b ∈ String.utf8EncodeChar c, b ≠ 0x22 ∧ b ≠ 0x5C ∧ ¬b < 0x20 := by
  intro b hmem
  have hnumber : b.toNat = c.toNat ∨ 0x80 ≤ b.toNat := Utf8.toNat_of_mem hmem
  have hother {d : Char} (hd : c ≠ d) (hsmall : d.toNat < 0x80) : b.toNat ≠ d.toNat := by
    intro hbyte
    refine hd (Char.toNat_inj.mp ?_)
    omega
  refine ⟨?_, ?_, ?_⟩
  · rintro rfl
    exact hother hquote (by decide) rfl
  · rintro rfl
    exact hother hbackslash (by decide) rfl
  · rw [UInt8.lt_iff_toNat_lt, show UInt8.toNat 0x20 = 0x20 from rfl]
    omega

/-- A character is read from any of its spellings. -/
theorem literalBytes_spellsChar {text : List Char} {c : Char} (h : SpellsChar text c) :
    literalBytes read (text.flatMap String.utf8EncodeChar ++ rest) =
      literalBytes ((String.utf8EncodeChar c).reverse ++ read) rest := by
  have hbackslash : String.utf8EncodeChar '\\' = [0x5C] := by decide
  have hu : String.utf8EncodeChar 'u' = [0x75] := by decide
  cases h with
  | raw quote backslash visible =>
      rw [List.flatMap_singleton]
      exact literalBytes_plain_append read rest (plain_of_mem quote backslash visible)
  | letter escapes =>
      obtain ⟨b, e, hb, he, hescape⟩ := letterEscape?_of_mem escapes
      simp only [List.flatMap_cons, List.flatMap_nil, hbackslash, hb, he]
      exact literalBytes_letter read rest hescape
  | number quad =>
      obtain ⟨a, b, c', d, hdigits, hquad⟩ := hexQuad?_of_hexQuad quad
      have hwhole : c.toNat < 0xD800 ∨ 0xDFFF < c.toNat := c.valid.imp_right And.left
      simp only [List.flatMap_cons, hbackslash, hu, hdigits]
      refine (literalBytes_number read rest hquad hwhole).trans ?_
      rw [pushCodePoint, Char.ofNat_toNat]
  | pair first second leading trailing joined =>
      obtain ⟨a, b, c', d, hhigh, hquad⟩ := hexQuad?_of_hexQuad first
      obtain ⟨e, f, g, i, hlow, hquad'⟩ := hexQuad?_of_hexQuad second
      simp only [List.flatMap_append, List.flatMap_cons, hbackslash, hu, hhigh, hlow]
      refine (literalBytes_pair read rest hquad hquad' leading trailing).trans ?_
      rw [← joined, pushCodePoint, Char.ofNat_toNat]

/-- A text is read from any of its spellings, up to the quote behind it. -/
theorem literalBytes_spells {spelled text : List Char} (h : Spells spelled text) :
    literalBytes read (spelled.flatMap String.utf8EncodeChar ++ 0x22 :: rest) =
      .ok (read.reverse ++ text.flatMap String.utf8EncodeChar, rest) := by
  induction h generalizing read with
  | nil => simp [literalBytes]
  | cons char spells ih =>
      rw [List.flatMap_append, List.append_assoc, literalBytes_spellsChar _ _ char, ih]
      simp

theorem literalText_spells {spelled : List Char} {text : String} (h : Spells spelled text.toList) :
    literalText (spelled.flatMap String.utf8EncodeChar ++ 0x22 :: rest) = .ok (text, rest) := by
  have hread := Utf8.decode?_encode text
  rw [Utf8.encode] at hread
  simp only [literalText, literalBytes_spells _ _ h, List.reverse_nil, List.nil_append, hread]

end Reading

/-! ### Writing -/

theorem isHexDigit_hexDigit {value : Nat} (h : value < 16) : IsHexDigit (hexDigit value) value :=
  ⟨h, Or.inl rfl⟩

/-- A character is written in one of its spellings. -/
theorem spellsChar_literalChar (c : Char) : SpellsChar (literalChar c) c := by
  have hletter {letter d : Char} (hescapes : (letter, d) ∈ letterEscapes) (hc : c = d) :
      SpellsChar ['\\', letter] c := by
    rw [hc]
    exact .letter hescapes
  unfold literalChar
  split_ifs with hquote hbackslash hbackspace htab hfeed hform hreturn hcontrol
  · exact hletter (by decide) hquote
  · exact hletter (by decide) hbackslash
  · exact hletter (by decide) hbackspace
  · exact hletter (by decide) htab
  · exact hletter (by decide) hfeed
  · exact hletter (by decide) hform
  · exact hletter (by decide) hreturn
  · refine .number ?_
    have hzero : IsHexDigit '0' 0 := isHexDigit_hexDigit (by decide)
    have hquad := HexQuad.digits hzero hzero (isHexDigit_hexDigit (show c.toNat / 16 < 16 by omega))
      (isHexDigit_hexDigit (show c.toNat % 16 < 16 by omega))
    rwa [show 0 * 4096 + 0 * 256 + c.toNat / 16 * 16 + c.toNat % 16 = c.toNat by omega] at hquad
  · exact .raw hquote hbackslash (by omega)

theorem spells_literal (text : List Char) : Spells (text.flatMap literalChar) text := by
  induction text with
  | nil => exact .nil
  | cons c rest ih => exact .cons (spellsChar_literalChar c) ih

/-- A text is written between quotes. -/
theorem encode_literal_append (text : String) (rest : Bytes) :
    Utf8.encode (literal text) ++ rest =
      0x22 :: ((text.toList.flatMap literalChar).flatMap String.utf8EncodeChar ++ 0x22 :: rest) := by
  have hquote : String.utf8EncodeChar '"' = [0x22] := by decide
  simp only [literal, Utf8.encode_ofList, List.cons_append, List.flatMap_cons, List.flatMap_append,
    List.flatMap_nil, hquote, List.nil_append, List.append_assoc]

end ClockWarden.Json
