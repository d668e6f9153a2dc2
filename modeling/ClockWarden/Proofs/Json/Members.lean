import ClockWarden.Json.Record
import ClockWarden.Proofs.Json.Spelling
import ClockWarden.Proofs.Text.Digits

/-! Reading the values and the members of an object. White space may stand in front of every sign, a
number is read up to the sign behind it, and each member of an object is read into the draft with all
that stood before it (`Shape.readMembers_member`, `Shape.read_of_members`). -/

namespace ClockWarden.Json

/-- White space. -/
def Blanks (text : Bytes) : Prop := ∀ b ∈ text, isBlank b = true

theorem blanks_nil : Blanks [] := fun _ hmem => (by cases hmem)

/-- What may stand in front of the key of a member: white space, with a comma in it unless the member is
the first one. -/
inductive Separates : Bool → Bytes → Prop
  | first {blanks : Bytes} (h : Blanks blanks) : Separates true blanks
  | comma {before after : Bytes} (hbefore : Blanks before) (hafter : Blanks after) :
      Separates false (before ++ 0x2C :: after)

theorem separates_comma : Separates false [0x2C] := .comma blanks_nil blanks_nil

theorem skipBlanks_append {blanks : Bytes} (h : Blanks blanks) {b : UInt8} (hb : isBlank b = false)
    (rest : Bytes) : skipBlanks (blanks ++ b :: rest) = b :: rest := by
  rw [skipBlanks, List.dropWhile_append_of_pos h, List.dropWhile_cons_of_neg (by simp [hb])]

theorem colon_append {blanks : Bytes} (h : Blanks blanks) (rest : Bytes) :
    colon (blanks ++ 0x3A :: rest) = .ok rest := by
  rw [colon, skipBlanks_append h (by decide)]
  rfl

/-! ### Values -/

theorem stringAs_append (expected : String) {blanks : Bytes} (h : Blanks blanks) {spelled : List Char}
    {text : String} (hspelled : Spells spelled text.toList) (rest : Bytes) :
    stringAs expected (blanks ++ 0x22 :: (spelled.flatMap String.utf8EncodeChar ++ 0x22 :: rest)) =
      .ok (text, rest) := by
  rw [stringAs, skipBlanks_append h (by decide)]
  exact literalText_spells rest hspelled

theorem stringAs_literal (expected text : String) (rest : Bytes) :
    stringAs expected (Utf8.encode (literal text) ++ rest) = .ok (text, rest) := by
  rw [encode_literal_append]
  exact stringAs_append expected blanks_nil (spells_literal text.toList) rest

theorem string_literal (text : String) (rest : Bytes) :
    string (Utf8.encode (literal text) ++ rest) = .ok (text, rest) := stringAs_literal _ text rest

/-- A value that is not there is written as a word of its own. -/
theorem optional_null {α : Type} (read : Bytes → Reading α) (rest : Bytes) :
    optional read (Utf8.encode "null" ++ rest) = .ok (none, rest) := rfl

theorem optional_of_read {α : Type} {read : Bytes → Reading α} {text : Bytes} {a : α} {rest : Bytes}
    {b : UInt8} {after : Bytes} (hskip : skipBlanks text = b :: after) (hb : b ≠ 0x6E)
    (hread : read (b :: after) = .ok (a, rest)) : optional read text = .ok (some a, rest) := by
  unfold optional
  rw [hskip]
  split
  · rename_i heq
    exact absurd (List.cons.inj heq).1 hb
  · rw [hread]

/-- A text between quotes is not taken for a value that is not there. -/
theorem optional_literal {α : Type} {read : Bytes → Reading α} {text : String} {a : α} {rest : Bytes}
    (hread : read (Utf8.encode (literal text) ++ rest) = .ok (a, rest)) :
    optional read (Utf8.encode (literal text) ++ rest) = .ok (some a, rest) := by
  rw [encode_literal_append] at hread ⊢
  exact optional_of_read (skipBlanks_append blanks_nil (by decide) _) (by decide) hread

theorem boolean_encode (b : Bool) (rest : Bytes) :
    boolean (Utf8.encode (toString b) ++ rest) = .ok (b, rest) := by
  cases b <;> rfl

/-! ### Numbers -/

/-- The sign behind a member. -/
def EndsMember (text : Bytes) : Prop := ∃ after, text = 0x2C :: after ∨ text = 0x7D :: after

theorem isDigit_of_endsMember {text : Bytes} (h : EndsMember text) :
    ∃ b after, text = b :: after ∧ isDigit b = false := by
  obtain ⟨after, rfl | rfl⟩ := h <;> exact ⟨_, after, rfl, by decide⟩

/-- A decimal digit is one byte. -/
theorem encodeChar_digit {c : Char} (h : c.isDigit = true) :
    ∃ b, String.utf8EncodeChar c = [b] ∧ b.toNat = c.toNat ∧ isDigit b = true := by
  have hrange := Text.toNat_of_isDigit h
  have hbyte : (UInt8.ofNat c.toNat).toNat = c.toNat := Utf8.toNat_ofNat_of_lt (by omega)
  refine ⟨UInt8.ofNat c.toNat, Utf8.utf8EncodeChar_of_lt (by omega), hbyte, ?_⟩
  simp only [isDigit, UInt8.le_iff_toNat_le, hbyte, Bool.and_eq_true, decide_eq_true_eq]
  exact hrange

theorem isDigit_of_mem {digits : List Char} (h : ∀ c ∈ digits, c.isDigit = true) :
    ∀ b ∈ digits.flatMap String.utf8EncodeChar, isDigit b = true := by
  intro b hmem
  obtain ⟨c, hc, hb⟩ := List.mem_flatMap.mp hmem
  obtain ⟨byte, hbytes, -, hdigit⟩ := encodeChar_digit (h c hc)
  rw [hbytes] at hb
  rw [List.mem_singleton.mp hb]
  exact hdigit

theorem push_of_lt {value kept : Nat} {b : UInt8} (h : value * 10 + digitValue b < 2 ^ 64) :
    Leading.push ⟨value, kept, 0⟩ b = ⟨value * 10 + digitValue b, kept + 1, 0⟩ := by
  have hfits : value * 10 + digitValue b < Nat.pow 2 64 := h
  simp only [Leading.push, hfits, and_self, if_true]

/-- The digits of a number that fits are all taken. -/
theorem foldl_push {digits : List Char} (h : ∀ c ∈ digits, c.isDigit = true) {value : Nat}
    (hfits : Nat.ofDigitChars 10 digits value < 2 ^ 64) (kept : Nat) :
    (digits.flatMap String.utf8EncodeChar).foldl Leading.push ⟨value, kept, 0⟩ =
      ⟨Nat.ofDigitChars 10 digits value, kept + digits.length, 0⟩ := by
  induction digits generalizing value kept with
  | nil => rfl
  | cons c rest ih =>
      rw [List.forall_mem_cons] at h
      obtain ⟨b, hbytes, hbyte, -⟩ := encodeChar_digit h.1
      have hvalue : value * 10 + digitValue b = 10 * value + (c.toNat - '0'.toNat) := by
        rw [digitValue, hbyte, Nat.mul_comm]
        rfl
      rw [Nat.ofDigitChars_cons, ← hvalue] at hfits ⊢
      have hsmall : value * 10 + digitValue b < 2 ^ 64 := (Text.le_ofDigitChars rest _).trans_lt hfits
      rw [List.flatMap_cons, hbytes, List.singleton_append, List.foldl_cons, push_of_lt hsmall,
        ih h.2 hfits, List.length_cons]
      congr 1
      omega

theorem leadingDigits_append {digits : List Char} (h : ∀ c ∈ digits, c.isDigit = true)
    (hfits : Nat.ofDigitChars 10 digits 0 < 2 ^ 64) {rest : Bytes} (hrest : EndsMember rest) :
    leadingDigits 0 (digits.flatMap String.utf8EncodeChar ++ rest) =
      (⟨Nat.ofDigitChars 10 digits 0, digits.length, 0⟩, rest) := by
  obtain ⟨b, after, rfl, hb⟩ := isDigit_of_endsMember hrest
  have hdigits := isDigit_of_mem h
  rw [leadingDigits, List.takeWhile_append_of_pos hdigits, List.dropWhile_append_of_pos hdigits,
    List.takeWhile_cons_of_neg (by simp [hb]), List.dropWhile_cons_of_neg (by simp [hb]),
    List.append_nil, foldl_push h hfits, Nat.zero_add]

theorem afterInteger_of_endsMember {n : Nat} {rest : Bytes} (h : EndsMember rest) :
    afterInteger false n 0 rest = .ok (.natural n, rest) := by
  obtain ⟨after, rfl | rfl⟩ := h <;> rfl

theorem unsignedNumber_of_ne_zero {b : UInt8} (hdigit : isDigit b = true) (hzero : b ≠ 0x30)
    (rest : Bytes) :
    unsignedNumber false (b :: rest) =
      afterInteger false (leadingDigits 0 (b :: rest)).1.value (leadingDigits 0 (b :: rest)).1.dropped
        (leadingDigits 0 (b :: rest)).2 := by
  simp only [unsignedNumber, if_neg hzero, hdigit, if_true]

theorem number_of_isDigit {b : UInt8} (hdigit : isDigit b = true) (rest : Bytes) :
    number (b :: rest) = unsignedNumber false (b :: rest) := by
  unfold number
  split
  · rename_i heq
    rw [(List.cons.inj heq).1] at hdigit
    cases hdigit
  · rfl

/-- The bytes of the digits of a number. -/
theorem toDigits_bytes (n : Nat) :
    ∃ b after, (Nat.toDigits 10 n).flatMap String.utf8EncodeChar = b :: after ∧ isDigit b = true ∧
      (0 < n → b ≠ 0x30) := by
  have hall := Text.isDigit_of_mem_toDigits n
  cases hdigits : Nat.toDigits 10 n with
  | nil => exact absurd hdigits Nat.toDigits_ne_nil
  | cons c rest =>
      have hc : c.isDigit = true := hall c (by rw [hdigits]; exact List.mem_cons_self)
      obtain ⟨b, hbytes, hbyte, hdigit⟩ := encodeChar_digit hc
      refine ⟨b, _, by rw [List.flatMap_cons, hbytes, List.singleton_append], hdigit, ?_⟩
      rintro hpositive rfl
      have hhead := Text.head?_toDigits hpositive
      rw [hdigits] at hhead
      have hzero : c = '0' := Char.toNat_inj.mp hbyte.symm
      exact hhead (by rw [hzero]; rfl)

/-- A number is read from its digits, up to the sign behind it. -/
theorem number_toDigits {n : Nat} (h : n < 2 ^ 64) {rest : Bytes} (hrest : EndsMember rest) :
    number ((Nat.toDigits 10 n).flatMap String.utf8EncodeChar ++ rest) = .ok (.natural n, rest) := by
  rcases n.eq_zero_or_pos with rfl | hpositive
  · obtain ⟨after, rfl | rfl⟩ := hrest <;> rfl
  · have hleading := leadingDigits_append (Text.isDigit_of_mem_toDigits n)
      (by rwa [Nat.ofDigitChars_ten_toDigits]) hrest
    rw [Nat.ofDigitChars_ten_toDigits] at hleading
    obtain ⟨b, after, hbytes, hdigit, hzero⟩ := toDigits_bytes n
    rw [hbytes, List.cons_append] at hleading ⊢
    rw [number_of_isDigit hdigit, unsignedNumber_of_ne_zero hdigit (hzero hpositive), hleading]
    exact afterInteger_of_endsMember hrest

theorem ne_of_isDigit {b other : UInt8} (h : isDigit b = true) (hother : isDigit other = false) :
    b ≠ other := by
  rintro rfl
  rw [h] at hother
  cases hother

theorem isBlank_of_isDigit {b : UInt8} (h : isDigit b = true) : isBlank b = false := by
  simp [isBlank, ne_of_isDigit h (show isDigit 0x20 = false by decide),
    ne_of_isDigit h (show isDigit 0x0A = false by decide),
    ne_of_isDigit h (show isDigit 0x09 = false by decide),
    ne_of_isDigit h (show isDigit 0x0D = false by decide)]

/-- A number below a bound is read from its text. -/
theorem unsigned_toString {width n : Nat} (hwidth : width ≤ 64) (h : n < 2 ^ width) {rest : Bytes}
    (hrest : EndsMember rest) : unsigned width (Utf8.encode (toString n) ++ rest) = .ok (n, rest) := by
  have hnumber := number_toDigits (h.trans_le (Nat.pow_le_pow_right (by decide) hwidth)) hrest
  obtain ⟨b, after, hbytes, hdigit, -⟩ := toDigits_bytes n
  rw [Nat.toString_eq_ofList_toDigits, Utf8.encode_ofList]
  rw [hbytes, List.cons_append] at hnumber ⊢
  have hstarts : startsNumber b = true := by simp [startsNumber, hdigit]
  have hfits : n < Nat.pow 2 width := h
  rw [unsigned, ← List.nil_append (b :: _), skipBlanks_append blanks_nil (isBlank_of_isDigit hdigit)]
  simp only [hstarts, if_true, hnumber, hfits]

/-- A number is not taken for a value that is not there. -/
theorem optional_toString {α : Type} {read : Bytes → Reading α} {n : Nat} {a : α} {rest : Bytes}
    (hread : read (Utf8.encode (toString n) ++ rest) = .ok (a, rest)) :
    optional read (Utf8.encode (toString n) ++ rest) = .ok (some a, rest) := by
  obtain ⟨b, after, hbytes, hdigit, -⟩ := toDigits_bytes n
  rw [Nat.toString_eq_ofList_toDigits, Utf8.encode_ofList, hbytes, List.cons_append] at hread ⊢
  exact optional_of_read (skipBlanks_append blanks_nil (isBlank_of_isDigit hdigit) _)
    (ne_of_isDigit hdigit (by decide)) hread

/-! ### Members -/

namespace Shape

variable {σ α : Type} {shape : Shape σ α} {draft draft' : σ}

/-- The value of a field is read behind a colon. -/
theorem readMember_field {name : String} {field : Field σ} {blanks value rest : Bytes}
    (hblanks : Blanks blanks) (hfield : shape.fields.find? (·.name == name) = some field)
    (hunset : field.isSet draft = false) (hread : field.read draft value = .ok (draft', rest)) :
    shape.readMember draft name (blanks ++ 0x3A :: value) = .ok (draft', rest) := by
  simp only [readMember, hfield, hunset, Bool.false_eq_true, if_false, colon_append hblanks]
  change (field.read draft value).mapError _ = _
  rw [hread]
  rfl

/-- A member is read behind its key. -/
theorem readMembers_key {rounds : Nat} {isFirst : Bool} {separator text rest : Bytes} {name : String}
    (hseparator : Separates isFirst separator) (hname : literalText text = .ok (name, rest)) :
    shape.readMembers (rounds + 1) isFirst draft (separator ++ 0x22 :: text) =
      match shape.readMember draft name rest with
      | .error fault => .error fault
      | .ok (draft, rest) => shape.readMembers rounds false draft rest := by
  cases hseparator with
  | first h =>
      simp only [readMembers, skipBlanks_append h (show isBlank 0x22 = false by decide)]
      cases hmember : shape.readMember draft name rest <;> simp [hname, hmember]
  | comma hbefore hafter =>
      rw [List.append_assoc, List.cons_append]
      simp only [readMembers, skipBlanks_append hbefore (show isBlank 0x2C = false by decide),
        skipBlanks_append hafter (show isBlank 0x22 = false by decide)]
      cases hmember : shape.readMember draft name rest <;> simp [hname, hmember]

theorem readMembers_member {rounds : Nat} {isFirst : Bool} {separator : Bytes}
    (hseparator : Separates isFirst separator) {spelled : List Char} {name : String}
    (hspelled : Spells spelled name.toList) {member rest : Bytes}
    (hmember : shape.readMember draft name member = .ok (draft', rest)) :
    shape.readMembers (rounds + 1) isFirst draft
        (separator ++ 0x22 :: (spelled.flatMap String.utf8EncodeChar ++ 0x22 :: member)) =
      shape.readMembers rounds false draft' rest := by
  rw [readMembers_key hseparator (literalText_spells member hspelled), hmember]

section Written

variable {rounds : Nat} {name : String} {field : Field σ} {value rest : Bytes}

/-- The first member of an object as it is written. -/
theorem readMembers_first (hfield : shape.fields.find? (·.name == name) = some field)
    (hunset : field.isSet draft = false) (hread : field.read draft value = .ok (draft', rest)) :
    shape.readMembers (rounds + 1) true draft (Utf8.encode (literal name) ++ 0x3A :: value) =
      shape.readMembers rounds false draft' rest := by
  rw [encode_literal_append]
  exact readMembers_member (.first blanks_nil) (spells_literal name.toList)
    (readMember_field blanks_nil hfield hunset hread)

/-- Another member of an object as it is written. -/
theorem readMembers_next (hfield : shape.fields.find? (·.name == name) = some field)
    (hunset : field.isSet draft = false) (hread : field.read draft value = .ok (draft', rest)) :
    shape.readMembers (rounds + 1) false draft (0x2C :: (Utf8.encode (literal name) ++ 0x3A :: value)) =
      shape.readMembers rounds false draft' rest := by
  rw [encode_literal_append]
  exact readMembers_member separates_comma (spells_literal name.toList)
    (readMember_field blanks_nil hfield hunset hread)

end Written

theorem readMembers_end {rounds : Nat} {isFirst : Bool} {blanks : Bytes} (h : Blanks blanks)
    (rest : Bytes) :
    shape.readMembers (rounds + 1) isFirst draft (blanks ++ 0x7D :: rest) = .ok (draft, 0x7D :: rest) := by
  simp only [readMembers, skipBlanks_append h (show isBlank 0x7D = false by decide), if_true]

/-- An object is read from its members. -/
theorem read_of_members {blanks text rest : Bytes} (h : Blanks blanks)
    (hmembers : shape.readMembers (text.length + 1) true shape.blank text = .ok (draft, 0x7D :: rest))
    {a : α} (hcomplete : shape.complete draft = .ok a) :
    shape.read (blanks ++ 0x7B :: text) = .ok (a, rest) := by
  simp only [read, skipBlanks_append h (show isBlank 0x7B = false by decide), if_true, readObject,
    hmembers, hcomplete]
  rfl

end Shape

end ClockWarden.Json
