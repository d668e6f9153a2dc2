import ClockWarden.Proofs.Json.Numerals

/-! Values that are passed over. Lists and objects nest, and the reader keeps the ones under way on a stack; the
grammar knows nothing of it (`Form`). Every value of the grammar is passed over as a whole
(`skipValue_append`): this is carried through its parts, each with the rounds that it takes (`Form.meets`).
Nothing but a value is passed over (`yields_skipValue`): in the frames under way the rounds take what is awaited
and the rest of each frame, innermost first (`passes`). -/

namespace ClockWarden.Json

/-! ### Scalars and keys -/

/-- A value that is no list and no object. -/
inductive ScalarForm : Bytes → Prop
  | null : ScalarForm (0x6E :: nullTail)
  | true : ScalarForm (0x74 :: trueTail)
  | false : ScalarForm (0x66 :: falseTail)
  | literal {literal : Bytes} (h : Literal literal) : ScalarForm (0x22 :: (literal ++ [0x22]))
  | numeral {numeral : Bytes} (h : Numeral numeral) : ScalarForm numeral

/-- The key of a member and its colon. -/
inductive KeyForm : Bytes → Prop
  | literal {literal blanks : Bytes} (h : Literal literal) (hblanks : Blanks blanks) :
      KeyForm (0x22 :: (literal ++ 0x22 :: (blanks ++ [0x3A])))

/-- A scalar begins with a byte of its own, which is none that opens or ends a frame. -/
theorem exists_cons_of_scalar {scalar : Bytes} (h : ScalarForm scalar) :
    ∃ b more, scalar = b :: more ∧ isBlank b = false ∧ b ≠ 0x5B ∧ b ≠ 0x7B ∧ b ≠ 0x5D := by
  cases h with
  | numeral h =>
      obtain ⟨b, more, rfl, hb⟩ := startsNumber_of_numeral h
      exact ⟨b, more, rfl, isBlank_of_startsNumber hb, ne_of_startsNumber hb (by decide),
        ne_of_startsNumber hb (by decide), ne_of_startsNumber hb (by decide)⟩
  | _ => exact ⟨_, _, rfl, by decide⟩

theorem skipScalar_append {b : UInt8} {more rest : Bytes} (h : ScalarForm (b :: more))
    (hrest : Stops rest) : skipScalar b (more ++ rest) = .ok rest := by
  generalize hscalar : b :: more = scalar at h
  cases h with
  | numeral h =>
      subst hscalar
      obtain ⟨_, _, heq, hb⟩ := startsNumber_of_numeral h
      cases heq
      rw [skipScalar, if_neg (ne_of_startsNumber hb (by decide)),
        if_neg (ne_of_startsNumber hb (by decide)), if_neg (ne_of_startsNumber hb (by decide)),
        if_neg (ne_of_startsNumber hb (by decide)), if_pos hb]
      exact skipNumber_append h hrest
  | literal h =>
      cases hscalar
      rw [List.append_assoc]
      exact skipLiteral_of_literal h rest
  | _ =>
      cases hscalar
      exact word_append _ rest

theorem yields_skipScalar (b : UInt8) (text : Bytes) :
    Yields (skipScalar b text) fun rest => ∃ more, text = more ++ rest ∧ ScalarForm (b :: more) := by
  fun_cases skipScalar b text with
  | case1 hb =>
      refine (yields_word _ _).imp ?_
      rintro rest rfl
      exact ⟨_, rfl, hb ▸ .null⟩
  | case2 _ hb =>
      refine (yields_word _ _).imp ?_
      rintro rest rfl
      exact ⟨_, rfl, hb ▸ .true⟩
  | case3 _ _ hb =>
      refine (yields_word _ _).imp ?_
      rintro rest rfl
      exact ⟨_, rfl, hb ▸ .false⟩
  | case4 _ _ _ hb =>
      refine (yields_skipLiteral _).imp ?_
      rintro rest ⟨literal, rfl, hliteral⟩
      exact ⟨_, (List.append_cons _ _ _), hb ▸ .literal hliteral⟩
  | case5 _ _ _ _ hb =>
      refine (yields_skipNumber _).imp ?_
      rintro rest ⟨numeral, htext, hnumeral⟩
      obtain ⟨_, more, rfl, -⟩ := startsNumber_of_numeral hnumeral
      cases htext
      exact ⟨more, rfl, .numeral hnumeral⟩
  | case6 => exact isFormal_atNext (by decide) _

theorem skipKey_append {blanks key rest : Bytes} (hblanks : Blanks blanks) (h : KeyForm key) :
    skipKey (blanks ++ (key ++ rest)) = .ok rest := by
  cases h with
  | @literal literal after h hafter =>
      have hliteral := skipLiteral_of_literal h (after ++ 0x3A :: rest)
      have hcolon := skipBlanks_append hafter (show isBlank 0x3A = false by decide) rest
      rw [skipKey, List.cons_append, skipBlanks_append hblanks (by decide)]
      simp [bind, Except.bind, hliteral, hcolon]

theorem yields_skipKey (text : Bytes) :
    Yields (skipKey text) fun rest => ∃ blanks key, text = blanks ++ (key ++ rest) ∧ Blanks blanks ∧
      KeyForm key := by
  fun_cases skipKey text with
  | case1 => exact isFormal_before (by decide) _
  | case2 after hskip =>
      obtain ⟨blanks, rfl, hblanks⟩ := exists_blanks_of_eq hskip
      refine (yields_skipLiteral after).bind ?_
      rintro between ⟨literal, rfl, hliteral⟩
      split
      · exact isFormal_before (by decide) _
      · rename_i c rest hcolon
        split_ifs with hc
        · subst hc
          obtain ⟨before, rfl, hbefore⟩ := exists_blanks_of_eq hcolon
          exact ⟨blanks, _, by simp, hblanks, .literal hliteral hbefore⟩
        · exact isFormal_atNext (by decide) _
  | case3 => exact isFormal_atNext (by decide) _

/-! ### Lists and objects -/

/-- The byte that opens a frame. -/
def Frame.opening : Frame → UInt8
  | .list => 0x5B
  | .object => 0x7B

/-- The parts of a value: the value itself, what stands between the commas of a frame, and the rest of a frame
behind its opening byte or behind such an entry. -/
inductive Part where
  | value
  | entry (frame : Frame)
  | first (frame : Frame)
  | next (frame : Frame)

/-- The grammar of the values that are passed over, with white space in front of every sign but the first. -/
inductive Form : Part → Bytes → Prop
  | scalar {text : Bytes} (h : ScalarForm text) : Form .value text
  | frame {frame : Frame} {rest : Bytes} (h : Form (.first frame) rest) :
      Form .value (frame.opening :: rest)
  | element {text : Bytes} (h : Form .value text) : Form (.entry .list) text
  | member {key blanks text : Bytes} (hkey : KeyForm key) (hblanks : Blanks blanks)
      (h : Form .value text) : Form (.entry .object) (key ++ (blanks ++ text))
  | empty {frame : Frame} {blanks : Bytes} (hblanks : Blanks blanks) :
      Form (.first frame) (blanks ++ [frame.close])
  | first {frame : Frame} {blanks entry rest : Bytes} (hblanks : Blanks blanks)
      (hentry : Form (.entry frame) entry) (hrest : Form (.next frame) rest) :
      Form (.first frame) (blanks ++ (entry ++ rest))
  | done {frame : Frame} {blanks : Bytes} (hblanks : Blanks blanks) :
      Form (.next frame) (blanks ++ [frame.close])
  | more {frame : Frame} {before after entry rest : Bytes} (hbefore : Blanks before)
      (hafter : Blanks after) (hentry : Form (.entry frame) entry) (hrest : Form (.next frame) rest) :
      Form (.next frame) (before ++ 0x2C :: (after ++ (entry ++ rest)))

/-! ### What is a value is passed over -/

/-- What a round does with an entry of a frame. -/
def skipEntry (rounds : Nat) (frames : List Frame) (text : Bytes) : Frame → Except Fault Bytes
  | .list => skipRounds rounds .value (.list :: frames) text
  | .object =>
    match skipKey text with
    | .error fault => .error fault
    | .ok rest => skipRounds rounds .value (.object :: frames) rest

section Complete

variable {rounds : Nat} {frame : Frame} {frames : List Frame} {blanks : Bytes}

theorem skipBlanks_blanks (h : Blanks blanks) (text : Bytes) :
    skipBlanks (blanks ++ text) = skipBlanks text := List.dropWhile_append_of_pos h

theorem skipRounds_value_blanks (h : Blanks blanks) (text : Bytes) :
    skipRounds rounds .value frames (blanks ++ text) = skipRounds rounds .value frames text := by
  cases rounds with
  | zero => rfl
  | succ rounds => simp only [skipRounds, skipBlanks_blanks h]

theorem skipRounds_opening (text : Bytes) :
    skipRounds (rounds + 1) .value frames (frame.opening :: text) =
      skipRounds rounds .first (frame :: frames) text := by
  cases frame <;> rfl

theorem skipRounds_first_close (h : Blanks blanks) (text : Bytes) :
    skipRounds (rounds + 1) .first (frame :: frames) (blanks ++ frame.close :: text) =
      skipRounds rounds .next frames text := by
  rw [skipRounds, skipBlanks_append h (by cases frame <;> decide)]
  simp

theorem skipRounds_next_close (h : Blanks blanks) (text : Bytes) :
    skipRounds (rounds + 1) .next (frame :: frames) (blanks ++ frame.close :: text) =
      skipRounds rounds .next frames text := by
  rw [skipRounds, skipBlanks_append h (by cases frame <;> decide)]
  cases frame <;> simp [Frame.close]

theorem skipRounds_next_comma (h : Blanks blanks) (text : Bytes) :
    skipRounds (rounds + 1) .next (frame :: frames) (blanks ++ 0x2C :: text) =
      skipEntry rounds frames text frame := by
  rw [skipRounds, skipBlanks_append h (by decide)]
  cases frame <;> rfl

theorem skipRounds_first_entry (h : Blanks blanks) {b : UInt8} (hb : isBlank b = false)
    (hclose : b ≠ frame.close) (text : Bytes) :
    skipRounds (rounds + 1) .first (frame :: frames) (blanks ++ b :: text) =
      skipEntry rounds frames (b :: text) frame := by
  rw [skipRounds, skipBlanks_append h hb]
  cases frame <;> exact if_neg hclose

theorem skipRounds_scalar {scalar rest : Bytes} (h : ScalarForm scalar) (hrest : Stops rest) :
    skipRounds (rounds + 1) .value frames (scalar ++ rest) = skipRounds rounds .next frames rest := by
  obtain ⟨b, more, rfl, hblank, hlist, hobject, -⟩ := exists_cons_of_scalar h
  have hskip := skipBlanks_append blanks_nil hblank (more ++ rest)
  rw [List.nil_append] at hskip
  simp only [List.cons_append, skipRounds, hskip, if_neg hlist, if_neg hobject, skipScalar_append h hrest]

theorem skipEntry_blanks (h : Blanks blanks) (text : Bytes) :
    skipEntry rounds frames (blanks ++ text) frame = skipEntry rounds frames text frame := by
  cases frame with
  | list => exact skipRounds_value_blanks h text
  | object => simp only [skipEntry, skipKey, skipBlanks_blanks h]

theorem skipEntry_member {key text : Bytes} (h : KeyForm key) (hblanks : Blanks blanks) :
    skipEntry rounds frames (key ++ (blanks ++ text)) .object =
      skipRounds rounds .value (.object :: frames) text := by
  have hkey := @skipKey_append [] key (blanks ++ text) blanks_nil h
  rw [List.nil_append] at hkey
  simp only [skipEntry, hkey, skipRounds_value_blanks hblanks]

/-- An entry begins with a byte of its own, which does not end its frame. -/
theorem exists_cons_of_value {value : Bytes} (h : Form .value value) :
    ∃ b more, value = b :: more ∧ isBlank b = false ∧ b ≠ 0x5D := by
  cases h with
  | scalar h =>
      obtain ⟨b, more, rfl, hblank, -, -, hclose⟩ := exists_cons_of_scalar h
      exact ⟨b, more, rfl, hblank, hclose⟩
  | @frame frame rest h => cases frame <;> exact ⟨_, rest, rfl, by decide⟩

theorem exists_cons_of_entry {entry : Bytes} (h : Form (.entry frame) entry) :
    ∃ b more, entry = b :: more ∧ isBlank b = false ∧ b ≠ frame.close := by
  cases h with
  | element h => exact exists_cons_of_value h
  | member hkey =>
      cases hkey with
      | literal => exact ⟨_, _, rfl, by decide⟩

/-- No number goes on into the rest of a frame. -/
theorem stops_of_next {text : Bytes} (h : Form (.next frame) text) (rest : Bytes) :
    Stops (text ++ rest) := by
  cases h with
  | done hblanks =>
      rw [List.append_assoc]
      exact stops_blanks hblanks (by cases frame <;> decide) rest
  | more hbefore =>
      rw [List.append_assoc]
      exact stops_blanks hbefore (by decide) _

/-- What the rounds make of a part of a value, and how many they are. -/
def Meets (text : Bytes) : Part → Prop
  | .value => ∃ used, used < 2 * text.length ∧ ∀ rounds frames rest, Stops rest →
      skipRounds (rounds + used) .value frames (text ++ rest) = skipRounds rounds .next frames rest
  | .entry frame => ∃ used, used < 2 * text.length ∧ ∀ rounds frames rest, Stops rest →
      skipEntry (rounds + used) frames (text ++ rest) frame =
        skipRounds rounds .next (frame :: frames) rest
  | .first frame => ∃ used, used ≤ 2 * text.length ∧ ∀ rounds frames rest,
      skipRounds (rounds + used) .first (frame :: frames) (text ++ rest) =
        skipRounds rounds .next frames rest
  | .next frame => ∃ used, used ≤ 2 * text.length ∧ ∀ rounds frames rest,
      skipRounds (rounds + used) .next (frame :: frames) (text ++ rest) =
        skipRounds rounds .next frames rest

/-- An entry and the rest of its frame behind it. -/
theorem meets_entry_next {entry rest : Bytes} (hentry : Meets entry (.entry frame))
    (hform : Form (.next frame) rest) (hnext : Meets rest (.next frame)) :
    ∃ used, used < 2 * (entry ++ rest).length ∧ ∀ rounds frames after,
      skipEntry (rounds + used) frames (entry ++ (rest ++ after)) frame =
        skipRounds rounds .next frames after := by
  obtain ⟨entered, hentered, hmeets⟩ := hentry
  obtain ⟨used, hused, hgoes⟩ := hnext
  refine ⟨used + entered, ?_, fun rounds frames after => ?_⟩
  · rw [List.length_append]
    omega
  · rw [← Nat.add_assoc, hmeets _ _ _ (stops_of_next hform after), hgoes]

theorem Form.meets {part : Part} {text : Bytes} (h : Form part text) : Meets text part := by
  induction h with
  | @scalar text h =>
      refine ⟨1, ?_, fun rounds frames rest hrest => skipRounds_scalar h hrest⟩
      obtain ⟨b, more, rfl, -⟩ := exists_cons_of_scalar h
      rw [List.length_cons]
      omega
  | frame h ih =>
      obtain ⟨used, hused, hmeets⟩ := ih
      refine ⟨used + 1, ?_, fun rounds frames rest hrest => ?_⟩
      · rw [List.length_cons]
        omega
      · rw [← Nat.add_assoc, List.cons_append, skipRounds_opening, hmeets]
  | element h ih =>
      obtain ⟨used, hused, hmeets⟩ := ih
      exact ⟨used, hused, fun rounds frames rest hrest => hmeets rounds (.list :: frames) rest hrest⟩
  | member hkey hblanks h ih =>
      obtain ⟨used, hused, hmeets⟩ := ih
      refine ⟨used, ?_, fun rounds frames rest hrest => ?_⟩
      · rw [List.length_append, List.length_append]
        omega
      · rw [List.append_assoc, List.append_assoc, skipEntry_member hkey hblanks, hmeets _ _ _ hrest]
  | empty hblanks =>
      refine ⟨1, ?_, fun rounds frames rest => ?_⟩
      · rw [List.length_append, List.length_singleton]
        omega
      · rw [List.append_assoc]
        exact skipRounds_first_close hblanks rest
  | first hblanks hentry hrest ihentry ihrest =>
      obtain ⟨used, hused, hmeets⟩ := meets_entry_next ihentry hrest ihrest
      obtain ⟨b, more, rfl, hb, hclose⟩ := exists_cons_of_entry hentry
      refine ⟨used + 1, ?_, fun rounds frames after => ?_⟩
      · rw [List.length_append]
        omega
      · rw [List.append_assoc, List.append_assoc, ← Nat.add_assoc, List.cons_append,
          skipRounds_first_entry hblanks hb hclose, ← List.cons_append, hmeets]
  | done hblanks =>
      refine ⟨1, ?_, fun rounds frames rest => ?_⟩
      · rw [List.length_append, List.length_singleton]
        omega
      · rw [List.append_assoc]
        exact skipRounds_next_close hblanks rest
  | more hbefore hblanks hentry hrest ihentry ihrest =>
      obtain ⟨used, hused, hmeets⟩ := meets_entry_next ihentry hrest ihrest
      refine ⟨used + 1, ?_, fun rounds frames after => ?_⟩
      · rw [List.length_append, List.length_cons, List.length_append]
        omega
      · rw [List.append_assoc, List.cons_append, List.append_assoc, List.append_assoc, ← Nat.add_assoc,
          skipRounds_next_comma hbefore, skipEntry_blanks hblanks, hmeets]

/-- A value is passed over, whatever stands behind it. -/
theorem skipValue_append {value rest : Bytes} (hblanks : Blanks blanks) (h : Form .value value)
    (hrest : Stops rest) : skipValue (blanks ++ (value ++ rest)) = .ok rest := by
  obtain ⟨used, hused, hmeets⟩ := h.meets
  obtain ⟨rounds, hrounds⟩ : ∃ rounds,
      2 * (blanks ++ (value ++ rest)).length + 2 = rounds + 1 + used := by
    refine ⟨2 * (blanks ++ (value ++ rest)).length + 1 - used, ?_⟩
    rw [List.length_append, List.length_append]
    omega
  rw [skipValue, hrounds, skipRounds_value_blanks hblanks, hmeets _ _ _ hrest]
  rfl

end Complete

/-! ### What is passed over is a value -/

/-- The rest of each frame under way, innermost first. -/
inductive Closes : List Frame → Bytes → Prop
  | nil : Closes [] []
  | cons {frame : Frame} {frames : List Frame} {text rest : Bytes} (h : Form (.next frame) text)
      (hrest : Closes frames rest) : Closes (frame :: frames) (text ++ rest)

/-- What stands in a text where something is awaited in the frames under way. -/
def Awaited.Takes (text : Bytes) : Awaited → List Frame → Prop
  | .value, frames => ∃ blanks value rest, text = blanks ++ (value ++ rest) ∧ Blanks blanks ∧
      Form .value value ∧ Closes frames rest
  | .first, frame :: frames => ∃ first rest, text = first ++ rest ∧ Form (.first frame) first ∧
      Closes frames rest
  | .first, [] => text = []
  | .next, frames => Closes frames text

/-- Rounds pass over what is awaited and nothing else. -/
def Passes (rounds : Nat) : Prop :=
  ∀ awaited frames text, Yields (skipRounds rounds awaited frames text) fun rest =>
    ∃ taken, text = taken ++ rest ∧ awaited.Takes taken frames

section Sound

variable {rounds : Nat} (hpasses : Passes rounds) (frame : Frame) (frames : List Frame) (text : Bytes)
include hpasses

theorem Passes.entry :
    Yields (skipEntry rounds frames text frame) fun rest => ∃ blanks entry more,
      text = blanks ++ (entry ++ (more ++ rest)) ∧ Blanks blanks ∧ Form (.entry frame) entry ∧
      Closes (frame :: frames) more := by
  cases frame with
  | list =>
      refine (hpasses .value (.list :: frames) text).imp ?_
      rintro rest ⟨_, rfl, blanks, value, more, rfl, hblanks, hvalue, hmore⟩
      exact ⟨blanks, value, more, by simp, hblanks, .element hvalue, hmore⟩
  | object =>
      have hyields := yields_skipKey text
      cases hskip : skipKey text with
      | error fault =>
          simp only [skipEntry, hskip]
          exact hyields.of_error hskip
      | ok after =>
          obtain ⟨before, key, rfl, hbefore, hkey⟩ := hyields.of_ok hskip
          simp only [skipEntry, hskip]
          refine (hpasses .value (.object :: frames) after).imp ?_
          rintro rest ⟨_, rfl, blanks, value, more, rfl, hblanks, hvalue, hmore⟩
          exact ⟨before, _, more, by simp, hbefore, .member hkey hblanks hvalue, hmore⟩

theorem Passes.value :
    Yields (skipRounds (rounds + 1) .value frames text) fun rest =>
      ∃ taken, text = taken ++ rest ∧ Awaited.Takes taken .value frames := by
  obtain ⟨blanks, htext, hblanks⟩ := exists_blanks text
  have hopens (frame : Frame) (after : Bytes) (hskip : skipBlanks text = frame.opening :: after) :
      Yields (skipRounds rounds .first (frame :: frames) after) fun rest =>
        ∃ taken, text = taken ++ rest ∧ Awaited.Takes taken .value frames := by
    refine (hpasses .first (frame :: frames) after).imp ?_
    rintro rest ⟨_, rfl, first, more, rfl, hfirst, hmore⟩
    exact ⟨_, by rw [htext, hskip]; simp, blanks, _, more, rfl, hblanks, .frame hfirst, hmore⟩
  rw [skipRounds]
  split
  · exact isFormal_before (by decide) _
  · rename_i b after hskip
    split_ifs with hlist hobject
    · exact hopens .list after (by rw [hskip, hlist]; rfl)
    · exact hopens .object after (by rw [hskip, hobject]; rfl)
    · have hyields := yields_skipScalar b after
      split
      · rename_i fault hfault
        exact hyields.of_error hfault
      · rename_i between hbetween
        obtain ⟨more, rfl, hscalar⟩ := hyields.of_ok hbetween
        refine (hpasses .next frames between).imp ?_
        rintro rest ⟨taken, rfl, htaken⟩
        exact ⟨_, by rw [htext, hskip]; simp, blanks, _, taken, rfl, hblanks, .scalar hscalar, htaken⟩

theorem Passes.first :
    Yields (skipRounds (rounds + 1) .first (frame :: frames) text) fun rest =>
      ∃ taken, text = taken ++ rest ∧ Awaited.Takes taken .first (frame :: frames) := by
  obtain ⟨blanks, htext, hblanks⟩ := exists_blanks text
  cases hskip : skipBlanks text with
  | nil =>
      rw [skipRounds, hskip]
      cases frame <;> exact isFormal_before (by decide) _
  | cons b after =>
      rw [hskip] at htext
      subst htext
      by_cases hclose : b = frame.close
      · rw [hclose, skipRounds_first_close hblanks]
        refine (hpasses .next frames after).imp ?_
        rintro rest ⟨taken, rfl, htaken⟩
        exact ⟨_, by simp, _, taken, rfl, .empty hblanks, htaken⟩
      · rw [skipRounds_first_entry hblanks (isBlank_of_skipBlanks hskip) hclose]
        refine (hpasses.entry frame frames (b :: after)).imp ?_
        rintro rest ⟨more, entry, _, hafter, hmore, hentry, hclosed⟩
        cases hclosed with
        | @cons _ _ next closed hnext hrest =>
            refine ⟨blanks ++ (more ++ (entry ++ (next ++ closed))), by rw [hafter]; simp, _, closed, ?_,
              .first (hblanks.append hmore) hentry hnext, hrest⟩
            simp

theorem Passes.next :
    Yields (skipRounds (rounds + 1) .next (frame :: frames) text) fun rest =>
      ∃ taken, text = taken ++ rest ∧ Awaited.Takes taken .next (frame :: frames) := by
  obtain ⟨blanks, htext, hblanks⟩ := exists_blanks text
  cases hskip : skipBlanks text with
  | nil =>
      rw [skipRounds, hskip]
      cases frame <;> exact isFormal_before (by decide) _
  | cons b after =>
      rw [hskip] at htext
      subst htext
      by_cases hcomma : b = 0x2C
      · rw [hcomma, skipRounds_next_comma hblanks]
        refine (hpasses.entry frame frames after).imp ?_
        rintro rest ⟨more, entry, _, rfl, hmore, hentry, hclosed⟩
        cases hclosed with
        | @cons _ _ next closed hnext hrest =>
            refine ⟨_, ?_, .cons (.more hblanks hmore hentry hnext) hrest⟩
            simp
      · by_cases hclose : b = frame.close
        · rw [hclose, skipRounds_next_close hblanks]
          refine (hpasses .next frames after).imp ?_
          rintro rest ⟨taken, rfl, htaken⟩
          exact ⟨_, by simp, .cons (.done hblanks) htaken⟩
        · rw [skipRounds, hskip]
          simp only [if_neg hcomma, if_neg hclose]
          cases frame <;> exact isFormal_atNext (by decide) _

end Sound

theorem passes (rounds : Nat) : Passes rounds := by
  induction rounds with
  | zero => exact fun _ _ _ => isFormal_before (by decide) _
  | succ rounds ih =>
      intro awaited frames text
      cases awaited with
      | value => exact ih.value frames text
      | first =>
          cases frames with
          | nil => exact ⟨[], rfl, rfl⟩
          | cons frame frames => exact ih.first frame frames text
      | next =>
          cases frames with
          | nil => exact ⟨[], rfl, .nil⟩
          | cons frame frames => exact ih.next frame frames text

theorem yields_skipValue (text : Bytes) :
    Yields (skipValue text) fun rest => ∃ blanks value, text = blanks ++ (value ++ rest) ∧
      Blanks blanks ∧ Form .value value := by
  refine (passes _ .value [] text).imp ?_
  rintro rest ⟨_, rfl, blanks, value, _, rfl, hblanks, hvalue, hclosed⟩
  cases hclosed
  exact ⟨blanks, value, by simp, hblanks, hvalue⟩

end ClockWarden.Json
