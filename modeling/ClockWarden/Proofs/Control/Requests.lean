import ClockWarden.Control.Body
import ClockWarden.Proofs.Json.Mismatch
import ClockWarden.Proofs.Json.Passing

/-! The bodies of requests for a fake time, byte by byte: which ones are requests (`TimeRequest.Encodes`), and
which say something else where a request or its fake time should stand (`TimeRequest.Mismatched`). A reader
takes the former for what they say (`TimeRequest.read_of_encodes`) and refuses the latter for their data
(`TimeRequest.read_of_mismatched`); all it takes are requests, and all else that it refuses has the wrong form
(`TimeRequest.sorts_read`). A number that is too large and a list that is too long count among these
(`TimeRequest.read_of_excessive`). -/

namespace ClockWarden.Control.TimeRequest

open Json

/-! ### Members -/

/-- A member of a request, from its key on, and what it makes of the fake time given so far: the fake time is
given once, and any other member may hold any value. -/
inductive Member : Option (Option String) → Option (Option String) → Bytes → Prop
  | time {given : Option String} {name before after value : Bytes} (hname : Says name "fake_time")
      (hbefore : Blanks before) (hafter : Blanks after) (hvalue : Nullable given value) :
      Member none (some given) (0x22 :: (name ++ 0x22 :: (before ++ 0x3A :: (after ++ value))))
  | other {given : Option (Option String)} {text : String} {name before after value : Bytes}
      (hname : Says name text) (hother : text ≠ "fake_time") (hbefore : Blanks before)
      (hafter : Blanks after) (hvalue : Form .value value) :
      Member given given (0x22 :: (name ++ 0x22 :: (before ++ 0x3A :: (after ++ value))))

/-- The members of a request behind its opening brace, and the fake time that they give. -/
inductive Members : Option (Option String) → Bool → Bytes → Prop
  | none : Members none true []
  | more {given given' : Option (Option String)} {isFirst : Bool} {members separator member : Bytes}
      (hmembers : Members given isFirst members) (hseparator : Separates isFirst separator)
      (hmember : Member given given' member) : Members given' false (members ++ (separator ++ member))

/-- The member in which the fake time is given once more, or as a value that is no text and not null. -/
inductive Clashes : Option (Option String) → Bytes → Prop
  | twice {given : Option String} {name : Bytes} (hname : Says name "fake_time") (rest : Bytes) :
      Clashes (some given) (0x22 :: (name ++ 0x22 :: rest))
  | other {name before after value : Bytes} {found : Found} (hname : Says name "fake_time")
      (hbefore : Blanks before) (hafter : Blanks after) (hvalue : Begins found value)
      (hfound : ¬found.IsNullable) :
      Clashes none (0x22 :: (name ++ 0x22 :: (before ++ 0x3A :: (after ++ value))))

/-! ### Bodies -/

/-- The bodies that are requests, with the fake time that they give: an object, or a list with no more than
the fake time in it. What follows is not looked at. -/
inductive Encodes : Option String → Bytes → Prop
  | object {given : Option (Option String)} {isFirst : Bool} {before members after : Bytes}
      (hbefore : Blanks before) (hmembers : Members given isFirst members) (hafter : Blanks after)
      (rest : Bytes) : Encodes given.join (before ++ 0x7B :: (members ++ (after ++ 0x7D :: rest)))
  | empty {before after : Bytes} (hbefore : Blanks before) (hafter : Blanks after) (rest : Bytes) :
      Encodes none (before ++ 0x5B :: (after ++ 0x5D :: rest))
  | list {given : Option String} {before between value after : Bytes} (hbefore : Blanks before)
      (hbetween : Blanks between) (hvalue : Nullable given value) (hafter : Blanks after) (rest : Bytes) :
      Encodes given (before ++ 0x5B :: (between ++ (value ++ (after ++ 0x5D :: rest))))

/-- The bodies that say something else: a value that is no object and no list, a fake time that is given twice
or that is no text and not null, as a member or as the first in a list. -/
inductive Mismatched : Bytes → Prop
  | request {before value : Bytes} {found : Found} (hbefore : Blanks before) (hvalue : Begins found value)
      (hfound : ¬found.IsRecord) : Mismatched (before ++ value)
  | member {given : Option (Option String)} {isFirst : Bool} {before members separator member : Bytes}
      (hbefore : Blanks before) (hmembers : Members given isFirst members)
      (hseparator : Separates isFirst separator) (hmember : Clashes given member) :
      Mismatched (before ++ 0x7B :: (members ++ (separator ++ member)))
  | element {before between value : Bytes} {found : Found} (hbefore : Blanks before)
      (hbetween : Blanks between) (hvalue : Begins found value) (hfound : ¬found.IsNullable) :
      Mismatched (before ++ 0x5B :: (between ++ value))

/-- The bodies that hold too much: a number that is too large, as the body, as the fake time or as the first in
a list, or a list that goes on behind its fake time. -/
inductive Excessive : Bytes → Prop
  | request {before value : Bytes} (hbefore : Blanks before) (hvalue : TooLarge value) :
      Excessive (before ++ value)
  | member {isFirst : Bool} {before members separator name between after value : Bytes}
      (hbefore : Blanks before) (hmembers : Members none isFirst members)
      (hseparator : Separates isFirst separator) (hname : Says name "fake_time") (hbetween : Blanks between)
      (hafter : Blanks after) (hvalue : TooLarge value) :
      Excessive (before ++ 0x7B :: (members ++
        (separator ++ 0x22 :: (name ++ 0x22 :: (between ++ 0x3A :: (after ++ value))))))
  | element {before between value : Bytes} (hbefore : Blanks before) (hbetween : Blanks between)
      (hvalue : TooLarge value) : Excessive (before ++ 0x5B :: (between ++ value))
  | further {given : Option String} {before between value after : Bytes} (hbefore : Blanks before)
      (hbetween : Blanks between) (hvalue : Nullable given value) (hafter : Blanks after) (rest : Bytes) :
      Excessive (before ++ 0x5B :: (between ++ (value ++ (after ++ 0x2C :: rest))))

/-! ### Reading one member -/

/-- How the value of the fake time is read, as a member or as an element. -/
def readTime (place : Place) (text : Bytes) : Reading (Option (Option String)) :=
  ((optional string text).map fun (given, rest) => (some given, rest)).mapError fun fault =>
    { fault with place := some place }

section Time

variable {blanks value : Bytes} (hblanks : Blanks blanks) (place : Place)
include hblanks

theorem readTime_of_nullable {given : Option String} (h : Nullable given value) (rest : Bytes) :
    readTime place (blanks ++ (value ++ rest)) = .ok (some given, rest) := by
  rw [readTime, optional_string_of_nullable hblanks h]
  rfl

theorem readTime_of_begins {found : Found} (h : Begins found value) (hfound : ¬found.IsNullable) :
    ∃ fault, readTime place (blanks ++ value) = .error fault ∧ fault.cause.category = .data := by
  obtain ⟨unread, hfault⟩ := optional_string_of_begins hblanks h hfound
  refine ⟨⟨.wrongType found "a string", some unread, some place⟩, ?_, rfl⟩
  rw [readTime, hfault]
  rfl

theorem readTime_of_tooLarge (h : TooLarge value) :
    ∃ fault, readTime place (blanks ++ value) = .error fault ∧ fault.IsFormal := by
  obtain ⟨unread, hfault⟩ := optional_string_of_tooLarge hblanks h
  refine ⟨⟨.numberTooLarge, some unread, some place⟩, ?_,
    (by decide : Cause.numberTooLarge.category ≠ .data)⟩
  rw [readTime, hfault]
  rfl

end Time

theorem sorts_readTime (place : Place) (text : Bytes) :
    Sorts (readTime place text)
      (fun (given, rest) => ∃ time blanks value, given = some time ∧ text = blanks ++ (value ++ rest) ∧
        Blanks blanks ∧ Nullable time value)
      (∃ blanks found value, text = blanks ++ value ∧ Blanks blanks ∧ Begins found value ∧
        ¬found.IsNullable) := by
  refine Sorts.placed (Sorts.map ((sorts_optional_string text).imp ?_ id)) _
  rintro ⟨time, rest⟩ ⟨blanks, value, htext, hblanks, hvalue⟩
  exact ⟨time, blanks, value, rfl, htext, hblanks, hvalue⟩

theorem readMember_time (text : Bytes) :
    shape.readMember none "fake_time" text = colon text >>= readTime (.key "fake_time") := rfl

theorem readMember_twice (given : Option String) (text : Bytes) :
    shape.readMember (some given) "fake_time" text =
      .error (.before (.duplicateField "fake_time") (Shape.leaveObject text)) := rfl

theorem readMember_other (given : Option (Option String)) {name : String} (h : name ≠ "fake_time")
    (text : Bytes) :
    shape.readMember given name text = colon text >>= fun rest =>
      ((skipValue rest).mapError fun fault => { fault with place := some (.key name) }).map
        fun rest => (given, rest) := by
  have hfind : shape.fields.find? (·.name == name) = none := by
    simp [shape, h.symm]
  simp only [Shape.readMember, hfind]
  congr 1

section Member

variable {given given' : Option (Option String)} {isFirst : Bool} {separator member : Bytes}

theorem readMembers_of_member (hseparator : Separates isFirst separator)
    (h : Member given given' member) (rounds : Nat) {rest : Bytes} (hrest : Stops rest) :
    shape.readMembers (rounds + 1) isFirst given (separator ++ (member ++ rest)) =
      shape.readMembers rounds false given' rest := by
  cases h with
  | @time given name before after value hname hbefore hafter hvalue =>
      have hmember : shape.readMember none "fake_time" (before ++ 0x3A :: (after ++ (value ++ rest))) =
          .ok (some given, rest) := by
        rw [readMember_time, colon_append hbefore]
        exact readTime_of_nullable hafter _ hvalue rest
      simp only [List.cons_append, List.append_assoc]
      rw [Shape.readMembers_key hseparator (literalText_eq_ok hname _), hmember]
  | @other _ text name before after value hname hother hbefore hafter hvalue =>
      have hmember : shape.readMember given text (before ++ 0x3A :: (after ++ (value ++ rest))) =
          .ok (given, rest) := by
        rw [readMember_other given hother, colon_append hbefore]
        change Except.map _ (Except.mapError _ (skipValue _)) = _
        rw [skipValue_append hafter hvalue hrest]
        rfl
      simp only [List.cons_append, List.append_assoc]
      rw [Shape.readMembers_key hseparator (literalText_eq_ok hname _), hmember]

theorem readMembers_of_clashes (hseparator : Separates isFirst separator) (h : Clashes given member)
    (rounds : Nat) :
    ∃ fault, shape.readMembers (rounds + 1) isFirst given (separator ++ member) = .error fault ∧
      fault.cause.category = .data := by
  cases h with
  | twice hname rest =>
      rw [Shape.readMembers_key hseparator (literalText_eq_ok hname _), readMember_twice]
      exact ⟨_, rfl, rfl⟩
  | @other name before after value found hname hbefore hafter hvalue hfound =>
      obtain ⟨fault, hfault, hdata⟩ := readTime_of_begins hafter (.key "fake_time") hvalue hfound
      have hmember : shape.readMember none "fake_time" (before ++ 0x3A :: (after ++ value)) =
          .error fault := by
        rw [readMember_time, colon_append hbefore]
        exact hfault
      rw [Shape.readMembers_key hseparator (literalText_eq_ok hname _), hmember]
      exact ⟨fault, rfl, hdata⟩

/-- What is read as a member is one, and its data are at fault if it clashes. -/
theorem sorts_readMember {spelled : Bytes} {name : String} (hname : Says spelled name)
    (given : Option (Option String)) (text : Bytes) :
    Sorts (shape.readMember given name text)
      (fun (given', rest) => ∃ member, 0x22 :: (spelled ++ 0x22 :: text) = member ++ rest ∧
        Member given given' member)
      (Clashes given (0x22 :: (spelled ++ 0x22 :: text))) := by
  by_cases htime : name = "fake_time"
  · subst htime
    cases given with
    | none =>
        refine (yields_colon text).sorts.bind ?_
        rintro between ⟨before, rfl, hbefore⟩
        refine (sorts_readTime _ between).imp ?_ ?_
        · rintro ⟨_, rest⟩ ⟨given, after, value, rfl, rfl, hafter, hvalue⟩
          exact ⟨_, by simp, .time hname hbefore hafter hvalue⟩
        · rintro ⟨after, found, value, rfl, hafter, hvalue, hfound⟩
          exact .other hname hbefore hafter hvalue hfound
    | some given => exact Or.inr (.twice hname text)
  · rw [readMember_other given htime]
    refine (yields_colon text).sorts.bind ?_
    rintro between ⟨before, rfl, hbefore⟩
    refine Sorts.map (Sorts.placed ((yields_skipValue between).sorts.imp ?_ id) _)
    rintro rest ⟨after, value, rfl, hafter, hvalue⟩
    exact ⟨_, by simp, .other hname htime hbefore hafter hvalue⟩

end Member

/-! ### Reading the members -/

theorem length_pos_of_member {given given' : Option (Option String)} {member : Bytes}
    (h : Member given given' member) : 0 < member.length := by
  cases h <;> exact Nat.succ_pos _

theorem stops_of_separates {separator : Bytes} (h : Separates false separator) (rest : Bytes) :
    Stops (separator ++ rest) := by
  cases h with
  | comma hbefore hafter =>
      rw [List.append_assoc]
      exact stops_blanks hbefore (by decide) _

/-- The members of a request are read one after another. -/
theorem readMembers_of_members {given : Option (Option String)} {isFirst : Bool} {members : Bytes}
    (h : Members given isFirst members) :
    ∃ used, used ≤ members.length ∧ ∀ rounds rest, (isFirst = false → Stops rest) →
      shape.readMembers (rounds + used) true none (members ++ rest) =
        shape.readMembers rounds isFirst given rest := by
  induction h with
  | none => exact ⟨0, le_rfl, fun _ _ _ => rfl⟩
  | @more given given' isFirst members separator member hmembers hseparator hmember ih =>
      obtain ⟨used, hused, hread⟩ := ih
      refine ⟨used + 1, ?_, fun rounds rest hrest => ?_⟩
      · have hpositive := length_pos_of_member hmember
        rw [List.length_append, List.length_append]
        omega
      · have hstops : isFirst = false → Stops (separator ++ (member ++ rest)) := by
          rintro rfl
          exact stops_of_separates hseparator _
        rw [List.append_assoc, List.append_assoc, show rounds + (used + 1) = rounds + 1 + used by omega,
          hread _ _ hstops, readMembers_of_member hseparator hmember rounds (hrest rfl)]

/-- There are rounds enough to read on behind the members. -/
theorem exists_rounds {given : Option (Option String)} {isFirst : Bool} {members rest : Bytes}
    (h : Members given isFirst members) (hrest : isFirst = false → Stops rest) :
    ∃ rounds, shape.readMembers ((members ++ rest).length + 1) true shape.blank (members ++ rest) =
      shape.readMembers (rounds + 1) isFirst given rest := by
  obtain ⟨used, hused, hread⟩ := readMembers_of_members h
  refine ⟨(members ++ rest).length - used, ?_⟩
  rw [← hread _ _ hrest, List.length_append]
  congr 1
  omega

/-- The members of an object and its end, behind members that have been read. -/
def Completes (members text : Bytes) (given : Option (Option String)) : Prop :=
  ∃ more blanks rest, text = more ++ (blanks ++ 0x7D :: rest) ∧ Blanks blanks ∧
    ∃ isFirst, Members given isFirst (members ++ more)

/-- A clash behind members that have been read. -/
def ClashesIn (members : Bytes) : Prop :=
  ∃ given isFirst before separator member, members = before ++ (separator ++ member) ∧
    Members given isFirst before ∧ Separates isFirst separator ∧ Clashes given member

/-- The reader goes from whole members to whole members, until it finds the end or a clash. -/
theorem sorts_readMembers (rounds : Nat) {given : Option (Option String)} {isFirst : Bool}
    {members : Bytes} (hmembers : Members given isFirst members) (text : Bytes) :
    Sorts (shape.readMembers rounds isFirst given text)
      (fun (given', _) => Completes members text given') (ClashesIn (members ++ text)) := by
  induction rounds generalizing given isFirst members text with
  | zero => exact Or.inl (isFormal_before (by decide) _)
  | succ rounds ih =>
      rcases shape.readMembers_cases (rounds + 1) isFirst given text with hgoes | ⟨fault, hfault, hformal⟩
      · cases hgoes with
        | done hblanks rest =>
            rw [Shape.readMembers_end hblanks]
            exact ⟨[], _, rest, rfl, hblanks, isFirst, by rwa [List.append_nil]⟩
        | @key separator spelled name hseparator hname rest =>
            have hyields := sorts_readMember hname given rest
            rw [Shape.readMembers_key hseparator (literalText_eq_ok hname rest)]
            cases hmember : shape.readMember given name rest with
            | error fault =>
                refine (hyields.of_error hmember).imp_right fun hclashes => ?_
                exact ⟨given, isFirst, members, separator, _, rfl, hmembers, hseparator, hclashes⟩
            | ok result =>
                obtain ⟨given', after⟩ := result
                obtain ⟨member, htext, hmember⟩ := hyields.of_ok hmember
                refine (ih (.more hmembers hseparator hmember) after).imp ?_ ?_
                · rintro _ ⟨more, blanks, ending, rfl, hblanks, isFirst', hmore⟩
                  refine ⟨separator ++ (member ++ more), blanks, ending, ?_, hblanks, isFirst', ?_⟩
                  · rw [htext]
                    simp only [List.append_assoc]
                  · simpa only [List.append_assoc] using hmore
                · intro hclashes
                  rw [htext]
                  simpa only [List.append_assoc] using hclashes
      · rw [hfault]
        exact Or.inl hformal

/-! ### Reading a body -/

theorem read_brace {blanks : Bytes} (h : Blanks blanks) (text : Bytes) :
    shape.read (blanks ++ 0x7B :: text) = shape.readObject text := by
  simp only [Shape.read, skipBlanks_append h (show isBlank 0x7B = false by decide), if_true]

theorem read_bracket {blanks : Bytes} (h : Blanks blanks) (text : Bytes) :
    shape.read (blanks ++ 0x5B :: text) = shape.readList text := by
  rw [Shape.read, skipBlanks_append h (by decide)]
  rfl

theorem endList_append {blanks : Bytes} (h : Blanks blanks) (rest : Bytes) :
    Shape.endList (blanks ++ 0x5D :: rest) = .ok rest := by
  rw [Shape.endList, skipBlanks_append h (by decide)]
  rfl

theorem yields_endList (text : Bytes) :
    Yields (Shape.endList text) fun rest => ∃ blanks, text = blanks ++ 0x5D :: rest ∧ Blanks blanks := by
  fun_cases Shape.endList text with
  | case1 => exact isFormal_before (by decide) _
  | case2 rest hskip => exact exists_blanks_of_eq hskip
  | _ => exact isFormal_atNext (by decide) _

theorem readList_close {blanks : Bytes} (h : Blanks blanks) (rest : Bytes) :
    shape.readList (blanks ++ 0x5D :: rest) = .ok (⟨none⟩, rest) := by
  have helements : shape.readElements 0 shape.blank (blanks ++ 0x5D :: rest) shape.fields =
      .ok (none, 0x5D :: rest) := by
    simp only [shape, Shape.readElements, skipBlanks_append h (show isBlank 0x5D = false by decide),
      if_true]
  rw [Shape.readList, helements]
  rfl

/-- How a list is read from the fake time on. -/
def readSole (text : Bytes) : Except Fault (TimeRequest × Bytes) := do
  let (given, rest) ← readTime (.index 0) text
  let rest ← Shape.endList rest
  pure (⟨given.join⟩, rest)

theorem readList_sole {blanks : Bytes} (h : Blanks blanks) {b : UInt8} (hb : isBlank b = false)
    (hclose : b ≠ 0x5D) (text : Bytes) :
    shape.readList (blanks ++ b :: text) = readSole (b :: text) := by
  have helements : shape.readElements 0 shape.blank (blanks ++ b :: text) shape.fields =
      readTime (.index 0) (b :: text) := by
    simp only [shape, Shape.readElements, skipBlanks_append h hb, if_neg hclose, if_true]
    unfold readTime
    cases optional string (b :: text) <;> rfl
  rw [Shape.readList, helements]
  rfl

/-- A fake time in a list is read, and then the list has to end. -/
theorem readList_of_nullable {given : Option String} {blanks value : Bytes} (hblanks : Blanks blanks)
    (hvalue : Nullable given value) (rest : Bytes) :
    shape.readList (blanks ++ (value ++ rest)) =
      (Shape.endList rest).map fun rest => (⟨given⟩, rest) := by
  have htime : readTime (.index 0) (value ++ rest) = .ok (some given, rest) :=
    readTime_of_nullable blanks_nil _ hvalue _
  obtain ⟨b, more, rfl, hb, hclose⟩ := exists_cons_of_nullable hvalue
  rw [List.cons_append] at htime ⊢
  rw [readList_sole hblanks hb hclose, readSole, htime]
  change Shape.endList rest >>= _ = _
  cases Shape.endList rest <;> rfl

theorem read_of_encodes {given : Option String} {body : Bytes} (h : Encodes given body) :
    ∃ rest, shape.read body = .ok (⟨given⟩, rest) := by
  cases h with
  | object hbefore hmembers hafter rest =>
      obtain ⟨rounds, hread⟩ := exists_rounds hmembers fun _ =>
        @stops_blanks _ hafter 0x7D (by decide) rest
      rw [Shape.readMembers_end hafter] at hread
      exact ⟨rest, Shape.read_of_members hbefore hread rfl⟩
  | empty hbefore hafter rest =>
      exact ⟨rest, (read_bracket hbefore _).trans (readList_close hafter rest)⟩
  | list hbefore hbetween hvalue hafter rest =>
      refine ⟨rest, ?_⟩
      rw [read_bracket hbefore, readList_of_nullable hbetween hvalue, endList_append hafter]
      rfl

theorem read_of_mismatched {body : Bytes} (h : Mismatched body) :
    ∃ fault, shape.read body = .error fault ∧ fault.cause.category = .data := by
  cases h with
  | @request _ _ found hbefore hvalue hfound =>
      obtain ⟨b, more, rfl, hb, -, -, hrecord⟩ := exists_cons_of_begins hvalue
      obtain ⟨hbracket, hbrace⟩ := not_or.mp (mt hrecord.mpr hfound)
      obtain ⟨unread, hfault⟩ := wrongType_of_begins hvalue shape.expected
      refine ⟨.before (.wrongType found shape.expected) unread, ?_, rfl⟩
      simp only [Shape.read, skipBlanks_append hbefore hb, if_neg hbrace, if_neg hbracket, hfault]
  | member hbefore hmembers hseparator hmember =>
      obtain ⟨rounds, hread⟩ := exists_rounds hmembers fun hfirst =>
        stops_of_separates (hfirst ▸ hseparator) _
      obtain ⟨fault, hfault, hdata⟩ := readMembers_of_clashes hseparator hmember rounds
      refine ⟨fault, ?_, hdata⟩
      rw [read_brace hbefore, Shape.readObject, hread, hfault]
  | element hbefore hbetween hvalue hfound =>
      obtain ⟨b, more, rfl, hb, hclose, -⟩ := exists_cons_of_begins hvalue
      obtain ⟨fault, hfault, hdata⟩ := readTime_of_begins blanks_nil (.index 0) hvalue hfound
      rw [List.nil_append] at hfault
      refine ⟨fault, ?_, hdata⟩
      rw [read_bracket hbefore, readList_sole hbetween hb hclose, readSole, hfault]
      rfl

/-- A list that goes on is not ended. -/
theorem endList_comma {blanks : Bytes} (h : Blanks blanks) (rest : Bytes) :
    ∃ fault, Shape.endList (blanks ++ 0x2C :: rest) = .error fault ∧ fault.IsFormal := by
  cases hend : Shape.endList (blanks ++ 0x2C :: rest) with
  | error fault => exact ⟨fault, rfl, (yields_endList _).of_error hend⟩
  | ok after =>
      obtain ⟨others, htext, hothers⟩ := (yields_endList _).of_ok hend
      have hskip := congrArg skipBlanks htext
      rw [skipBlanks_append h (by decide), skipBlanks_append hothers (by decide)] at hskip
      cases hskip

theorem read_of_excessive {body : Bytes} (h : Excessive body) :
    ∃ fault, shape.read body = .error fault ∧ fault.IsFormal := by
  cases h with
  | request hbefore hvalue =>
      obtain ⟨unread, hfault⟩ := wrongType_of_tooLarge hvalue shape.expected
      obtain ⟨b, rest, rfl, hb⟩ := exists_cons_of_tooLarge hvalue
      refine ⟨.before .numberTooLarge unread, ?_, isFormal_before (by decide) _⟩
      simp only [Shape.read, skipBlanks_append hbefore (isBlank_of_startsNumber hb),
        if_neg (ne_of_startsNumber hb (show startsNumber 0x7B = false by decide)),
        if_neg (ne_of_startsNumber hb (show startsNumber 0x5B = false by decide)), hfault]
  | @member isFirst _ members separator name between after value hbefore hmembers hseparator hname hbetween
        hafter hvalue =>
      obtain ⟨rounds, hread⟩ := exists_rounds hmembers fun hfirst =>
        stops_of_separates (hfirst ▸ hseparator) (0x22 :: (name ++ 0x22 :: (between ++ 0x3A :: (after ++ value))))
      obtain ⟨fault, hfault, hformal⟩ := readTime_of_tooLarge hafter (.key "fake_time") hvalue
      have hmember : shape.readMember none "fake_time" (between ++ 0x3A :: (after ++ value)) =
          .error fault := by
        rw [readMember_time, colon_append hbetween]
        exact hfault
      refine ⟨fault, ?_, hformal⟩
      rw [read_brace hbefore, Shape.readObject, hread,
        Shape.readMembers_key hseparator (literalText_eq_ok hname _), hmember]
  | element hbefore hbetween hvalue =>
      obtain ⟨b, more, rfl, hb⟩ := exists_cons_of_tooLarge hvalue
      obtain ⟨fault, hfault, hformal⟩ := readTime_of_tooLarge blanks_nil (.index 0) hvalue
      rw [List.nil_append] at hfault
      refine ⟨fault, ?_, hformal⟩
      rw [read_bracket hbefore, readList_sole hbetween (isBlank_of_startsNumber hb)
        (ne_of_startsNumber hb (by decide)), readSole, hfault]
      rfl
  | further hbefore hbetween hvalue hafter rest =>
      obtain ⟨fault, hfault, hformal⟩ := endList_comma hafter rest
      refine ⟨fault, ?_, hformal⟩
      rw [read_bracket hbefore, readList_of_nullable hbetween hvalue, hfault]
      rfl

theorem sorts_readObject {blanks : Bytes} (h : Blanks blanks) (text : Bytes) :
    Sorts (shape.readObject text) (fun (request, _) => Encodes request.fakeTime (blanks ++ 0x7B :: text))
      (Mismatched (blanks ++ 0x7B :: text)) := by
  have hyields := sorts_readMembers (text.length + 1) .none text
  unfold Shape.readObject
  cases hread : shape.readMembers (text.length + 1) true shape.blank text with
  | error fault =>
      refine (hyields.of_error hread).imp_right ?_
      rintro ⟨given, isFirst, before, separator, member, rfl, hmembers, hseparator, hmember⟩
      exact .member h hmembers hseparator hmember
  | ok result =>
      obtain ⟨given, rest⟩ := result
      obtain ⟨members, after, ending, rfl, hafter, isFirst, hmembers⟩ := hyields.of_ok hread
      exact .object h hmembers hafter ending

theorem sorts_readList {blanks : Bytes} (h : Blanks blanks) (text : Bytes) :
    Sorts (shape.readList text) (fun (request, _) => Encodes request.fakeTime (blanks ++ 0x5B :: text))
      (Mismatched (blanks ++ 0x5B :: text)) := by
  obtain ⟨between, htext, hbetween⟩ := exists_blanks text
  cases hskip : skipBlanks text with
  | nil =>
      have helements : shape.readElements 0 shape.blank text shape.fields =
          .error (.before .endInList []) := by
        simp only [shape, Shape.readElements, hskip]
      rw [Shape.readList, helements]
      exact Or.inl (isFormal_before (by decide) _)
  | cons b rest =>
      rw [hskip] at htext
      subst htext
      by_cases hclose : b = 0x5D
      · subst hclose
        rw [readList_close hbetween]
        exact .empty h hbetween rest
      · rw [readList_sole hbetween (isBlank_of_skipBlanks hskip) hclose]
        refine Sorts.bind ((sorts_readTime (.index 0) (b :: rest)).imp (fun _ h => h) ?_) ?_
        · rintro ⟨more, found, value, htext, hmore, hvalue, hfound⟩
          rw [htext, ← List.append_assoc]
          exact .element h (hbetween.append hmore) hvalue hfound
        · rintro ⟨_, after⟩ ⟨given, more, value, rfl, htext, hmore, hvalue⟩
          rw [htext]
          refine (yields_endList after).sorts.bind ?_
          rintro ending ⟨before, rfl, hbefore⟩
          rw [← List.append_assoc]
          exact .list h (hbetween.append hmore) hvalue hbefore ending

theorem sorts_read (body : Bytes) :
    Sorts (shape.read body) (fun (request, _) => Encodes request.fakeTime body) (Mismatched body) := by
  obtain ⟨blanks, htext, hblanks⟩ := exists_blanks body
  cases hskip : skipBlanks body with
  | nil =>
      simp only [Shape.read, hskip]
      exact Or.inl (isFormal_before (by decide) _)
  | cons b rest =>
      rw [hskip] at htext
      subst htext
      by_cases hbrace : b = 0x7B
      · subst hbrace
        rw [read_brace hblanks]
        exact sorts_readObject hblanks rest
      · by_cases hbracket : b = 0x5B
        · subst hbracket
          rw [read_bracket hblanks]
          exact sorts_readList hblanks rest
        · simp only [Shape.read, hskip, if_neg hbrace, if_neg hbracket]
          refine (wrongType_outcome shape.expected (b :: rest)).symm.imp_right ?_
          rintro ⟨found, hbegins⟩
          refine .request hblanks hbegins ?_
          obtain ⟨_, _, heq, -, -, -, hrecord⟩ := exists_cons_of_begins hbegins
          cases heq
          exact mt hrecord.mp (not_or.mpr ⟨hbracket, hbrace⟩)

/-! ### What a body is -/

theorem encodes_iff {given : Option String} {body : Bytes} :
    Encodes given body ↔ ∃ rest, shape.read body = .ok (⟨given⟩, rest) := by
  constructor
  · exact read_of_encodes
  · rintro ⟨rest, hread⟩
    exact (sorts_read body).of_ok hread

theorem mismatched_iff {body : Bytes} :
    Mismatched body ↔ ∃ fault, shape.read body = .error fault ∧ fault.cause.category = .data := by
  constructor
  · exact read_of_mismatched
  · rintro ⟨fault, hread, hdata⟩
    exact ((sorts_read body).of_error hread).resolve_left fun hformal => hformal hdata

/-- A body that holds too much says nothing, neither what is asked for nor something else. -/
theorem Excessive.not_read {body : Bytes} (h : Excessive body) :
    (∀ given, ¬Encodes given body) ∧ ¬Mismatched body := by
  obtain ⟨fault, hfault, hformal⟩ := read_of_excessive h
  refine ⟨fun given hencodes => ?_, fun hmismatched => ?_⟩
  · obtain ⟨rest, hread⟩ := encodes_iff.mp hencodes
    rw [hfault] at hread
    cases hread
  · obtain ⟨fault', hread, hdata⟩ := mismatched_iff.mp hmismatched
    rw [hfault] at hread
    cases hread
    exact hformal hdata

/-- A body that is a request. -/
def IsRequest (body : Bytes) : Prop := ∃ given, Encodes given body

/-- What is wrong with a body, if it is no request. -/
def blame? (body : Bytes) : Option Category :=
  match shape.read body with
  | .ok _ => none
  | .error fault => some fault.cause.category

theorem isRequest_iff {body : Bytes} : IsRequest body ↔ blame? body = none := by
  simp only [IsRequest, encodes_iff, blame?]
  cases shape.read body with
  | ok result => exact iff_of_true ⟨result.1.fakeTime, result.2, rfl⟩ rfl
  | error fault => simp

theorem mismatched_iff_blame? {body : Bytes} : Mismatched body ↔ blame? body = some .data := by
  simp only [mismatched_iff, blame?]
  cases shape.read body <;> simp

instance (body : Bytes) : Decidable (IsRequest body) := decidable_of_iff _ isRequest_iff.symm

instance (body : Bytes) : Decidable (Mismatched body) := decidable_of_iff _ mismatched_iff_blame?.symm

end ClockWarden.Control.TimeRequest
