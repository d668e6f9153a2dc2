import ClockWarden.Control.Endpoint
import ClockWarden.Proofs.Calendar.Reading
import ClockWarden.Proofs.Json.Members

/-! The bodies that the control endpoint and its clients exchange. A request for a fake time is read from
every spelling of it (`TimeRequest.read_of_spells`), and an answer is read back as it was written
(`MessageBody.read_text`, `Status.read_text`). -/

namespace ClockWarden

open Json

theorem FakeTime.ofText_text (time : FakeTime) : ofText time.text = .ok time := by
  simp only [ofText, dif_neg time.nonempty, dif_neg time.noNul]

namespace Control

/-- The bodies that ask for a fake time and say nothing else: an object with this one field, the name and
the fake time in any spelling, and what follows the object is not looked at. -/
inductive TimeRequest.Spells (text : String) : Bytes → Prop
  | object {b₀ b₁ b₂ b₃ b₄ : Bytes} {name value : List Char} (h₀ : Blanks b₀) (h₁ : Blanks b₁)
      (h₂ : Blanks b₂) (h₃ : Blanks b₃) (h₄ : Blanks b₄) (hname : Json.Spells name "fake_time".toList)
      (hvalue : Json.Spells value text.toList) (rest : Bytes) :
      Spells text (b₀ ++ 0x7B ::
        (b₁ ++ 0x22 :: (name.flatMap String.utf8EncodeChar ++ 0x22 ::
        (b₂ ++ 0x3A ::
        (b₃ ++ 0x22 :: (value.flatMap String.utf8EncodeChar ++ 0x22 ::
        (b₄ ++ 0x7D :: rest)))))))

theorem TimeRequest.read_of_spells {text : String} {body : Bytes} (h : Spells text body) :
    ∃ rest, shape.read body = .ok (⟨some text⟩, rest) := by
  cases h with
  | @object b₀ b₁ b₂ b₃ b₄ name value h₀ h₁ h₂ h₃ h₄ hname hvalue rest =>
      have hstring (after : Bytes) : optional string
          (b₃ ++ 0x22 :: (value.flatMap String.utf8EncodeChar ++ 0x22 :: after)) =
            .ok (some text, after) :=
        optional_of_read (skipBlanks_append h₃ (by decide) _) (by decide)
          (stringAs_append _ blanks_nil hvalue after)
      have hmember : shape.readMember none "fake_time"
          (b₂ ++ 0x3A :: (b₃ ++ 0x22 :: (value.flatMap String.utf8EncodeChar ++
            0x22 :: (b₄ ++ 0x7D :: rest)))) =
            .ok (some (some text), b₄ ++ 0x7D :: rest) := by
        refine Shape.readMember_field h₂ rfl rfl ?_
        change (optional string _).map _ = _
        rw [hstring]
        rfl
      refine ⟨rest, Shape.read_of_members h₀
        (?_ : shape.readMembers _ _ _ _ = .ok (some (some text), 0x7D :: rest)) rfl⟩
      rw [List.length_append, List.length_cons, ← Nat.add_assoc]
      exact (Shape.readMembers_member (.first h₁) hname hmember).trans (Shape.readMembers_end h₄ rest)

theorem encode_singleton (key value : String) :
    Utf8.encode (singleton key value) =
      0x7B :: (Utf8.encode (literal key) ++ 0x3A :: (Utf8.encode value ++ [0x7D])) := by
  have hopen : Utf8.encode "\x7b" = [0x7B] := by decide
  have hcolon : Utf8.encode ":" = [0x3A] := by decide
  have hclose : Utf8.encode "\x7d" = [0x7D] := by decide
  simp only [singleton, Utf8.encode_append, hopen, hcolon, hclose, List.append_assoc, List.cons_append,
    List.nil_append]

section Singleton

variable {σ α : Type} {shape : Shape σ α} {key value : String} {field : Json.Field σ} {draft : σ} {a : α}

/-- A record whose only member is a field of it is read back. -/
theorem read_singleton (hfield : shape.fields.find? (·.name == key) = some field)
    (hunset : field.isSet shape.blank = false)
    (hread : field.read shape.blank (Utf8.encode value ++ [0x7D]) = .ok (draft, [0x7D]))
    (hcomplete : shape.complete draft = .ok a) :
    shape.read (Utf8.encode (singleton key value)) = .ok (a, []) := by
  obtain ⟨rounds, hrounds⟩ : ∃ rounds, (Utf8.encode (literal key) ++
      0x3A :: (Utf8.encode value ++ [0x7D])).length + 1 = rounds + 2 := by
    refine ⟨(Utf8.encode (literal key)).length + (Utf8.encode value ++ [0x7D]).length, ?_⟩
    rw [List.length_append, List.length_cons]
    omega
  have hmember : shape.readMembers (rounds + 2) true shape.blank
      (Utf8.encode (literal key) ++ 0x3A :: (Utf8.encode value ++ [0x7D])) =
        shape.readMembers (rounds + 1) false draft [0x7D] :=
    Shape.readMembers_first hfield hunset hread
  have hmembers := hmember.trans (Shape.readMembers_end blanks_nil [])
  rw [← hrounds] at hmembers
  rw [encode_singleton]
  exact Shape.read_of_members blanks_nil hmembers hcomplete

/-- A text that is written as the only field is read back. -/
theorem read_singletonShape (name key text : String) :
    (singletonShape name key).read (Utf8.encode (singleton key (literal text))) = .ok (text, []) := by
  have hfield : (singletonShape name key).fields.find? (·.name == key) =
      (singletonShape name key).fields.head? := by
    simp [singletonShape]
  refine @read_singleton _ _ _ _ _ _ (some text) _ hfield rfl ?_ rfl
  simp only [string_literal]
  rfl

end Singleton

namespace MessageBody

theorem read_text (b : MessageBody) : read (Utf8.encode b.text) = .ok (b, []) := by
  rw [read, text, read_singletonShape]
  rfl

end MessageBody

theorem ErrorBody.read_text (b : ErrorBody) : read (Utf8.encode b.text) = .ok (b, []) := by
  rw [read, text, read_singletonShape]
  rfl

end Control

namespace Supervisor.Status

theorem encode_text (s : Status) :
    Utf8.encode s.text = 0x7B ::
      (Utf8.encode (literal "running") ++ 0x3A :: (Utf8.encode (toString s.running) ++ 0x2C ::
      (Utf8.encode (literal "pid") ++ 0x3A :: (Utf8.encode (optionText toString s.pid) ++ 0x2C ::
      (Utf8.encode (literal "fake_time") ++ 0x3A ::
        (Utf8.encode (optionText literal s.fakeTime) ++ 0x2C ::
      (Utf8.encode (literal "started_at") ++ 0x3A ::
        (Utf8.encode (optionText (fun t => literal t.text) s.startedAt) ++ 0x2C ::
      (Utf8.encode (literal "launches") ++ 0x3A ::
        (Utf8.encode (toString s.launches) ++ [0x7D])))))))))) := by
  have hopen : Utf8.encode "\x7b" = [0x7B] := by decide
  have hcolon : Utf8.encode ":" = [0x3A] := by decide
  have hcomma : Utf8.encode "," = [0x2C] := by decide
  have hclose : Utf8.encode "\x7d" = [0x7D] := by decide
  unfold text
  simp only [Utf8.encode_append, hopen, hcolon, hcomma, hclose, List.append_assoc, List.cons_append,
    List.nil_append]

/-- A value that may be missing is read back if it is read back wherever it is there. -/
theorem optional_optionText {α β : Type} {write : α → String} {read : Bytes → Reading β}
    {convert : α → β} {value : Option α} {rest : Bytes}
    (hread : ∀ a, value = some a →
      optional read (Utf8.encode (write a) ++ rest) = .ok (some (convert a), rest)) :
    optional read (Utf8.encode (optionText write value) ++ rest) = .ok (value.map convert, rest) := by
  cases value with
  | none => exact optional_null read rest
  | some a => exact hread a rfl

theorem unsigned_pid (pid : UInt32) {rest : Bytes} (hrest : EndsMember rest) :
    unsigned 32 (Utf8.encode (toString pid) ++ rest) = .ok (pid.toNat, rest) :=
  unsigned_toString (by decide) pid.toNat_lt hrest

theorem optional_pid (pid : Option UInt32) {rest : Bytes} (hrest : EndsMember rest) :
    optional (unsigned 32) (Utf8.encode (optionText toString pid) ++ rest) =
      .ok (pid.map UInt32.toNat, rest) :=
  optional_optionText fun pid _ => optional_toString (unsigned_pid pid hrest)

theorem optional_fakeTime (fakeTime : Option String) (rest : Bytes) :
    optional string (Utf8.encode (optionText literal fakeTime) ++ rest) = .ok (fakeTime, rest) := by
  rw [@optional_optionText _ _ literal _ id _ _ fun time _ => optional_literal (string_literal time rest),
    Option.map_id]
  rfl

theorem timestamp_literal (t : Calendar.Timestamp) (rest : Bytes) :
    timestamp (Utf8.encode (literal t.text) ++ rest) = .ok (t, rest) := by
  simp only [timestamp, stringWith, stringAs_literal, Calendar.Timestamp.ofText_text]
  rfl

theorem optional_startedAt (startedAt : Option Calendar.Timestamp) (rest : Bytes) :
    optional timestamp (Utf8.encode (optionText (fun t => literal t.text) startedAt) ++ rest) =
      .ok (startedAt, rest) := by
  rw [@optional_optionText _ _ _ _ id _ _ fun t _ => optional_literal (timestamp_literal t rest),
    Option.map_id]
  rfl

theorem unsigned_launches (launches : UInt64) {rest : Bytes} (hrest : EndsMember rest) :
    unsigned 64 (Utf8.encode (toString launches) ++ rest) = .ok (launches.toNat, rest) :=
  unsigned_toString (by decide) launches.toNat_lt hrest

/-- The members of a status, in the order in which they are written, are read one after another. -/
theorem readMembers_text (s : Status) :
    ∃ members, Utf8.encode s.text = 0x7B :: members ∧ 5 ≤ members.length ∧ ∀ rounds,
      shape.readMembers (rounds + 6) true {} members =
        .ok (⟨some s.running, some s.pid, some s.fakeTime, some s.startedAt, some s.launches⟩,
          [0x7D]) := by
  refine ⟨_, encode_text s, ?_, ?_⟩
  · simp only [List.length_append, List.length_cons]
    omega
  intro rounds
  have hrunning (rest : Bytes) : shape.readMembers (rounds + 6) true {}
      (Utf8.encode (literal "running") ++ 0x3A :: (Utf8.encode (toString s.running) ++ rest)) =
        shape.readMembers (rounds + 5) false ⟨some s.running, none, none, none, none⟩ rest :=
    Shape.readMembers_first rfl rfl (by simp only [boolean_encode]; rfl)
  have hpid (rest : Bytes) :
      shape.readMembers (rounds + 5) false ⟨some s.running, none, none, none, none⟩
      (0x2C :: (Utf8.encode (literal "pid") ++
        0x3A :: (Utf8.encode (optionText toString s.pid) ++ 0x2C :: rest))) =
        shape.readMembers (rounds + 4) false ⟨some s.running, some s.pid, none, none, none⟩
          (0x2C :: rest) :=
    Shape.readMembers_next rfl rfl (by
      simp only [optional_pid s.pid ⟨rest, Or.inl rfl⟩]
      simp [Except.map, Function.comp_def])
  have hfakeTime (rest : Bytes) :
      shape.readMembers (rounds + 4) false ⟨some s.running, some s.pid, none, none, none⟩
      (0x2C :: (Utf8.encode (literal "fake_time") ++
        0x3A :: (Utf8.encode (optionText literal s.fakeTime) ++ rest))) =
        shape.readMembers (rounds + 3) false ⟨some s.running, some s.pid, some s.fakeTime, none, none⟩
          rest :=
    Shape.readMembers_next rfl rfl (by simp only [optional_fakeTime]; rfl)
  have hstartedAt (rest : Bytes) :
      shape.readMembers (rounds + 3) false ⟨some s.running, some s.pid, some s.fakeTime, none, none⟩
      (0x2C :: (Utf8.encode (literal "started_at") ++
        0x3A :: (Utf8.encode (optionText (fun t => literal t.text) s.startedAt) ++ rest))) =
        shape.readMembers (rounds + 2) false
          ⟨some s.running, some s.pid, some s.fakeTime, some s.startedAt, none⟩ rest :=
    Shape.readMembers_next rfl rfl (by simp only [optional_startedAt]; rfl)
  have hlaunches : shape.readMembers (rounds + 2) false
      ⟨some s.running, some s.pid, some s.fakeTime, some s.startedAt, none⟩
      (0x2C :: (Utf8.encode (literal "launches") ++
        0x3A :: (Utf8.encode (toString s.launches) ++ [0x7D]))) =
        shape.readMembers (rounds + 1) false
          ⟨some s.running, some s.pid, some s.fakeTime, some s.startedAt, some s.launches⟩ [0x7D] :=
    Shape.readMembers_next rfl rfl (by
      simp only [unsigned_launches s.launches ⟨[], Or.inr rfl⟩]
      simp [Except.map])
  rw [hrunning, hpid, hfakeTime, hstartedAt, hlaunches]
  exact Shape.readMembers_end blanks_nil []

/-- A status is read back from its text. -/
theorem read_text (s : Status) : shape.read (Utf8.encode s.text) = .ok (s, []) := by
  obtain ⟨members, hencode, hlength, hmembers⟩ := s.readMembers_text
  have hrounds := hmembers (members.length - 5)
  rw [show members.length - 5 + 6 = members.length + 1 by omega] at hrounds
  rw [hencode]
  exact Shape.read_of_members blanks_nil hrounds rfl

end Supervisor.Status

end ClockWarden
