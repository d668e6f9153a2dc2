import ClockWarden.Proofs.Json.Mismatch
import ClockWarden.Proofs.Json.Passing

/-! Values, and all the texts that denote them: with white space around every sign, texts in any of their
spellings, and members in the order in which they are given. Whatever denotes a value is passed over as one
(`Denotes.form`), and where a text is asked for, or a text or nothing, a reader makes of it what it makes of the
value, however that is spelled and whatever stands behind it (`settles_string`, `settles_optional_string`). -/

namespace ClockWarden.Json

/-- A value of a text. A number is known by its digits. -/
inductive Value where
  | null
  | boolean (b : Bool)
  | number (numeral : Bytes)
  | string (s : String)
  | list (values : List Value)
  | object (members : List (String × Value))

/-- A value, or what is left of a list or an object behind its opening byte or behind an entry. -/
inductive Content where
  | value (v : Value)
  | elements (isFirst : Bool) (values : List Value)
  | members (isFirst : Bool) (members : List (String × Value))

/-- The texts of values and of their parts. -/
inductive Denotes : Content → Bytes → Prop
  | null : Denotes (.value .null) (0x6E :: nullTail)
  | true : Denotes (.value (.boolean true)) (0x74 :: trueTail)
  | false : Denotes (.value (.boolean false)) (0x66 :: falseTail)
  | number {numeral : Bytes} (h : Numeral numeral) : Denotes (.value (.number numeral)) numeral
  | string {spelled : Bytes} {s : String} (h : Says spelled s) :
      Denotes (.value (.string s)) (0x22 :: (spelled ++ [0x22]))
  | list {values : List Value} {rest : Bytes} (h : Denotes (.elements true values) rest) :
      Denotes (.value (.list values)) (0x5B :: rest)
  | object {members : List (String × Value)} {rest : Bytes} (h : Denotes (.members true members) rest) :
      Denotes (.value (.object members)) (0x7B :: rest)
  | endList {isFirst : Bool} {blanks : Bytes} (hblanks : Blanks blanks) :
      Denotes (.elements isFirst []) (blanks ++ [0x5D])
  | element {isFirst : Bool} {v : Value} {values : List Value} {separator text rest : Bytes}
      (hseparator : Separates isFirst separator) (hvalue : Denotes (.value v) text)
      (hrest : Denotes (.elements false values) rest) :
      Denotes (.elements isFirst (v :: values)) (separator ++ (text ++ rest))
  | endObject {isFirst : Bool} {blanks : Bytes} (hblanks : Blanks blanks) :
      Denotes (.members isFirst []) (blanks ++ [0x7D])
  | member {isFirst : Bool} {name : String} {v : Value} {members : List (String × Value)}
      {separator spelled before after text rest : Bytes} (hseparator : Separates isFirst separator)
      (hname : Says spelled name) (hbefore : Blanks before) (hafter : Blanks after)
      (hvalue : Denotes (.value v) text) (hrest : Denotes (.members false members) rest) :
      Denotes (.members isFirst ((name, v) :: members))
        (separator ++ 0x22 :: (spelled ++ 0x22 :: (before ++ 0x3A :: (after ++ (text ++ rest)))))

/-- The texts of a value that stands alone. -/
inductive Document (v : Value) : Bytes → Prop
  | alone {before text after : Bytes} (hbefore : Blanks before) (hvalue : Denotes (.value v) text)
      (hafter : Blanks after) : Document v (before ++ (text ++ after))

theorem document_of_denotes {v : Value} {text : Bytes} (h : Denotes (.value v) text) : Document v text := by
  simpa using Document.alone blanks_nil h blanks_nil

section Whole

variable {α : Type} {read : Bytes → Reading α} {text after : Bytes}

theorem whole_of_ok {a : α} (h : read text = .ok (a, after)) (hafter : Blanks after) :
    whole read text = .ok a := by
  have hskip := skipBlanks_blanks hafter []
  rw [List.append_nil] at hskip
  rw [whole, h]
  simp only [hskip]
  rfl

theorem whole_of_error {fault : Fault} (h : read text = .error fault) : whole read text = .error fault := by
  rw [whole, h]

/-- What is read as a whole leaves nothing but white space. -/
theorem exists_read_of_whole {a : α} (h : whole read text = .ok a) :
    ∃ after, read text = .ok (a, after) ∧ Blanks after := by
  unfold whole at h
  split at h
  · cases h
  · rename_i b after hread
    split at h
    · rename_i hskip
      cases h
      obtain ⟨blanks, rfl, hblanks⟩ := exists_blanks_of_eq hskip
      exact ⟨_, hread, by rwa [List.append_nil]⟩
    · cases h

end Whole

/-! ### Values that are passed over -/

theorem literal_of_spells {spelled bytes : Bytes} (h : SpellsBytes spelled bytes) : Literal spelled := by
  induction h with
  | nil => exact .nil
  | plain quote backslash visible _ ih => exact .plain quote backslash visible ih
  | letter escapes _ ih => exact .letter escapes ih
  | number quad _ _ ih => exact .number quad ih
  | pair high low _ _ _ ih => exact .number high (.number low ih)

theorem Says.literal {spelled : Bytes} {s : String} (h : Says spelled s) : Literal spelled := by
  obtain ⟨_, hspells, -⟩ := h
  exact literal_of_spells hspells

/-- The part of a value that a content stands in. -/
def Frame.part (frame : Frame) (isFirst : Bool) : Part := if isFirst then .first frame else .next frame

def Content.part : Content → Part
  | .value _ => .value
  | .elements isFirst _ => Frame.list.part isFirst
  | .members isFirst _ => Frame.object.part isFirst

theorem form_end {frame : Frame} {blanks : Bytes} (h : Blanks blanks) (isFirst : Bool) :
    Form (frame.part isFirst) (blanks ++ [frame.close]) := by
  cases isFirst with
  | true => exact .empty h
  | false => exact .done h

theorem form_entry {frame : Frame} {isFirst : Bool} {separator entry rest : Bytes}
    (hseparator : Separates isFirst separator) (hentry : Form (.entry frame) entry)
    (hrest : Form (.next frame) rest) : Form (frame.part isFirst) (separator ++ (entry ++ rest)) := by
  cases hseparator with
  | first h => exact .first h hentry hrest
  | comma hbefore hafter =>
      rw [List.append_assoc, List.cons_append]
      exact .more hbefore hafter hentry hrest

theorem Denotes.form {content : Content} {text : Bytes} (h : Denotes content text) :
    Form content.part text := by
  induction h with
  | null => exact .scalar .null
  | true => exact .scalar .true
  | false => exact .scalar .false
  | number h => exact .scalar (.numeral h)
  | string h => exact .scalar (.literal h.literal)
  | list _ ih => exact @Form.frame .list _ ih
  | object _ ih => exact @Form.frame .object _ ih
  | @endList isFirst _ hblanks => exact @form_end .list _ hblanks isFirst
  | element hseparator _ _ ihvalue ihrest => exact form_entry hseparator (.element ihvalue) ihrest
  | @endObject isFirst _ hblanks => exact @form_end .object _ hblanks isFirst
  | member hseparator hname hbefore hafter _ _ ihvalue ihrest =>
      have hform := form_entry hseparator
        (.member (.literal hname.literal hbefore) hafter ihvalue) ihrest
      simp only [List.cons_append, List.append_assoc, List.nil_append] at hform
      exact hform

/-! ### Values where a text is asked for -/

namespace Value

/-- What a value is found to be. A number may be too large to be found. -/
def found : Value → Except Fault Found
  | .null => .ok .null
  | .boolean b => .ok (.boolean b)
  | .number numeral => (numberOf numeral).map .number
  | .string s => .ok (.string s)
  | .list _ => .ok .list
  | .object _ => .ok .object

/-- The fault of a value that is of another type than expected. -/
def mistaken (expected : String) (v : Value) : Fault :=
  match v.found with
  | .ok found => .unplaced (.wrongType found expected)
  | .error fault => fault

/-- What a value gives where a text is expected. -/
def asString : Value → Except Fault String
  | .string s => .ok s
  | v => .error (v.mistaken "a string")

/-- What a value gives where a text or nothing is expected. -/
def asNullable : Value → Except Fault (Option String)
  | .null => .ok none
  | v => v.asString.map some

end Value

section Denotes

variable {v : Value} {blanks text rest : Bytes}

/-- A value is known by its first byte. -/
theorem exists_cons_of_denotes (h : Denotes (.value v) text) :
    ∃ b more, text = b :: more ∧ isBlank b = false ∧ (b = 0x6E ↔ v = .null) ∧
      (b = 0x22 ↔ ∃ s, v = .string s) := by
  cases h with
  | number h =>
      obtain ⟨b, more, rfl, hb⟩ := startsNumber_of_numeral h
      refine ⟨b, more, rfl, isBlank_of_startsNumber hb, ?_, ?_⟩
      · exact iff_of_false (ne_of_startsNumber hb (by decide)) (by simp)
      · exact iff_of_false (ne_of_startsNumber hb (by decide)) (by simp)
  | _ => exact ⟨_, _, rfl, by decide, by simp, by simp⟩

theorem wrongType_of_denotes (h : Denotes (.value v) text) (hrest : Stops rest) (expected : String) :
    ∃ unread, wrongType expected (text ++ rest) = { v.mistaken expected with unread := some unread } := by
  cases h with
  | number h =>
      obtain ⟨unread, hfault⟩ := wrongType_of_numeral (h.to hrest) expected
      refine ⟨unread, hfault.trans ?_⟩
      simp only [Value.mistaken, Value.found]
      cases numberOf text <;> rfl
  | string h =>
      rw [List.cons_append, List.append_assoc, List.singleton_append]
      exact wrongType_of_begins (.string h rest) expected
  | null => exact wrongType_of_begins (.null rest) expected
  | true => exact wrongType_of_begins (.true rest) expected
  | false => exact wrongType_of_begins (.false rest) expected
  | list => exact wrongType_of_begins (.list _) expected
  | object => exact wrongType_of_begins (.object _) expected

theorem Value.asString_of_ne (h : ∀ s, v ≠ .string s) : v.asString = .error (v.mistaken "a string") := by
  cases v with
  | string s => exact absurd rfl (h s)
  | _ => rfl

theorem Value.asNullable_of_ne (h : v ≠ .null) : v.asNullable = v.asString.map some := by
  cases v with
  | null => exact absurd rfl h
  | _ => rfl

theorem settles_string (hblanks : Blanks blanks) (h : Denotes (.value v) text) (hrest : Stops rest) :
    Settles rest v.asString (string (blanks ++ (text ++ rest))) := by
  obtain ⟨unread, hmistaken⟩ := wrongType_of_denotes h hrest "a string"
  obtain ⟨b, more, rfl, hb, -, hquote⟩ := exists_cons_of_denotes h
  rw [List.cons_append] at hmistaken ⊢
  rw [string, stringAs, skipBlanks_append hblanks hb]
  change Settles rest v.asString (if b = 0x22 then literalText (more ++ rest) else .error (wrongType _ _))
  by_cases hstring : ∃ s, v = .string s
  · obtain ⟨s, rfl⟩ := hstring
    cases h with
    | string h =>
        rw [if_pos rfl, List.append_assoc, List.singleton_append, literalText_eq_ok h]
        exact .ok s
  · rw [if_neg (mt hquote.mp hstring), hmistaken, Value.asString_of_ne (not_exists.mp hstring)]
    exact .error _ _

theorem settles_optional_string (hblanks : Blanks blanks) (h : Denotes (.value v) text)
    (hrest : Stops rest) : Settles rest v.asNullable (optional string (blanks ++ (text ++ rest))) := by
  have hstring := settles_string blanks_nil h hrest
  obtain ⟨b, more, rfl, hb, hnull, -⟩ := exists_cons_of_denotes h
  rw [List.nil_append, List.cons_append] at hstring
  rw [List.cons_append]
  by_cases hvalue : v = .null
  · subst hvalue
    cases h with
    | null =>
        rw [optional, skipBlanks_append hblanks (by decide)]
        simp only [word_append]
        exact .ok none
  · rw [optional_string_cons hblanks hb (mt hnull.mp hvalue), Value.asNullable_of_ne hvalue]
    exact hstring.map some

/-- What is read as a text is one. -/
theorem denotes_of_string {s : String} (h : string text = .ok (s, rest)) :
    ∃ blanks value, text = blanks ++ (value ++ rest) ∧ Blanks blanks ∧
      Denotes (.value (.string s)) value := by
  obtain ⟨blanks, htext, hblanks⟩ := exists_blanks text
  rw [string, stringAs] at h
  cases hskip : skipBlanks text with
  | nil =>
      rw [hskip] at h
      cases h
  | cons b after =>
      have hblank := isBlank_of_skipBlanks hskip
      rw [hskip] at h htext
      have hread : string (b :: after) = .ok (s, rest) := by
        rw [string, stringAs_cons hblank]
        exact h
      obtain ⟨spelled, hvalue, hsays⟩ := (sorts_string_cons hblank after).of_ok hread
      exact ⟨blanks, _, by rw [htext, hvalue]; simp, hblanks, .string hsays⟩

end Denotes

end ClockWarden.Json
