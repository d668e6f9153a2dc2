import ClockWarden.Proofs.Control.Bodies

/-! Values that pass through JSON. What is written is read back as the value it was written from. Texts
that are read may look different, with blanks, escapes, members in any order or a list of values, and
dates of any offset; writing the value that was read settles on one of them, which is written and read
without a change from then on (`Json.RoundTrips`). -/

namespace ClockWarden

namespace Json

variable {α : Type} {read : Bytes → Reading α} {write : α → String}

/-- What a text becomes when it is read and the value is written. -/
def normalForm (read : Bytes → Reading α) (write : α → String) (text : Bytes) : Except Fault Bytes :=
  (whole read text).map fun a => Utf8.encode (write a)

/-- Nothing is lost by writing a value, and normal forms are their own normal forms. -/
structure RoundTrips (read : Bytes → Reading α) (write : α → String) : Prop where
  read_written : ∀ a, whole read (Utf8.encode (write a)) = .ok a
  value_kept : ∀ text normal, normalForm read write text = .ok normal →
    whole read normal = whole read text
  text_kept : ∀ text normal, normalForm read write text = .ok normal →
    normalForm read write normal = .ok normal

theorem whole_of_read {text : Bytes} {a : α} (h : read text = .ok (a, [])) :
    whole read text = .ok a := by
  rw [whole, h]
  rfl

theorem normalForm_eq_ok {text normal : Bytes} (h : normalForm read write text = .ok normal) :
    ∃ a, whole read text = .ok a ∧ normal = Utf8.encode (write a) := by
  unfold normalForm at h
  cases hread : whole read text with
  | error fault =>
      rw [hread] at h
      cases h
  | ok a =>
      rw [hread] at h
      cases h
      exact ⟨a, rfl, rfl⟩

/-- A reader that takes the whole of what is written makes a round trip. -/
theorem RoundTrips.of_read (h : ∀ a, read (Utf8.encode (write a)) = .ok (a, [])) :
    RoundTrips read write := by
  have hwritten (a : α) : whole read (Utf8.encode (write a)) = .ok a := whole_of_read (h a)
  refine ⟨hwritten, ?_, ?_⟩
  · intro text normal hnormal
    obtain ⟨a, hread, rfl⟩ := normalForm_eq_ok hnormal
    rw [hwritten, hread]
  · intro text normal hnormal
    obtain ⟨a, -, rfl⟩ := normalForm_eq_ok hnormal
    rw [normalForm, hwritten]
    rfl

end Json

open Json

namespace Control

/-- A request is read back, whether it asks for a fake time or not. -/
theorem TimeRequest.read_text (r : TimeRequest) : shape.read (Utf8.encode r.text) = .ok (r, []) := by
  obtain ⟨fakeTime⟩ := r
  have hvalue : (fakeTime.map literal).getD "null" =
      Supervisor.Status.optionText literal fakeTime := by
    cases fakeTime with
    | none => rfl
    | some text => rfl
  refine @read_singleton _ _ _ _ _ _ (some fakeTime) _ rfl rfl ?_ rfl
  simp only [hvalue, Supervisor.Status.optional_fakeTime]
  rfl

theorem readFakeTime_literal (time : FakeTime) :
    readFakeTime (Utf8.encode (literal time.text)) = .ok (time, []) := by
  have hstring := string_literal time.text []
  rw [List.append_nil] at hstring
  simp only [readFakeTime, hstring, time.ofText_text]

/-- Every kind of body that is sent or taken makes the round trip. -/
theorem bodies_round_trip :
    RoundTrips TimeRequest.shape.read TimeRequest.text ∧
    RoundTrips MessageBody.read MessageBody.text ∧
    RoundTrips ErrorBody.read ErrorBody.text ∧
    RoundTrips readFakeTime (fun time => literal time.text) ∧
    RoundTrips Supervisor.Status.shape.read Supervisor.Status.text :=
  ⟨.of_read TimeRequest.read_text, .of_read MessageBody.read_text, .of_read ErrorBody.read_text,
    .of_read readFakeTime_literal, .of_read Supervisor.Status.read_text⟩

end Control

end ClockWarden
