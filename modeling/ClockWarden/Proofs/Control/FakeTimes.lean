import ClockWarden.Proofs.Control.Demands
import ClockWarden.Proofs.Control.RoundTrip
import ClockWarden.Proofs.Json.Documents
import ClockWarden.Proofs.Supervisor.Requested

/-! All ways to a fake time lead through the same gate. A text that is there and holds no NUL is taken as it
stands, whether it comes by itself, with a request or in any spelling of it in JSON, and any other one is refused
for the same reason; JSON that is no text is no fake time (`admitted_alike`). So whatever a process is managed or
confirmed under, in any run, is a text that a call has given and that could pass. -/

namespace ClockWarden

open Host Json Supervisor

/-- A text that may be a fake time. -/
def FakeTime.Usable (text : String) : Prop := text ≠ "" ∧ '\x00' ∉ text.toList

theorem FakeTime.usable (time : FakeTime) : Usable time.text := ⟨time.nonempty, time.noNul⟩

theorem FakeTime.ofText_of_usable {text : String} (h : Usable text) :
    ofText text = .ok ⟨text, h.1, h.2⟩ := by
  rw [ofText, dif_neg h.1, dif_neg h.2]

theorem FakeTime.eq_of_ofText {text : String} {time : FakeTime} (h : ofText text = .ok time) :
    text = time.text := by
  have hrequest : ofRequest (some text) = .ok time := h
  exact Option.some.inj (Control.eq_of_ofRequest hrequest)

theorem FakeTime.ofText_of_not_usable {text : String} (h : ¬Usable text) :
    ∃ refusal, ofText text = .error refusal := by
  cases hread : ofText text with
  | error refusal => exact ⟨refusal, rfl⟩
  | ok time =>
      obtain rfl := eq_of_ofText hread
      exact absurd time.usable h

namespace Control

variable {v : Value} {document : Bytes}

/-- A text is read as a fake time if it is one, however it is spelled. -/
theorem readFakeTime_of_document {text : String} (h : Document (.string text) document) :
    whole readFakeTime document =
      match FakeTime.ofText text with
      | .ok time => .ok time
      | .error refusal => .error (.unplaced (.refused refusal.message)) := by
  cases h with
  | alone hbefore hvalue hafter =>
      have hread := (settles_string hbefore hvalue hafter.stops).eq_ok
      cases htext : FakeTime.ofText text with
      | ok time =>
          refine whole_of_ok ?_ hafter
          simp only [readFakeTime, hread, htext]
      | error refusal =>
          refine whole_of_error ?_
          simp only [readFakeTime, hread, htext]

/-- What is read as a fake time spells it. -/
theorem document_of_readFakeTime {time : FakeTime} (h : whole readFakeTime document = .ok time) :
    Document (.string time.text) document := by
  obtain ⟨after, hread, hafter⟩ := exists_read_of_whole h
  unfold readFakeTime at hread
  split at hread
  · cases hread
  · rename_i text rest hstring
    split at hread
    · rename_i htext
      cases hread
      obtain ⟨blanks, value, rfl, hblanks, hvalue⟩ := denotes_of_string hstring
      obtain rfl := FakeTime.eq_of_ofText htext
      exact .alone hblanks hvalue hafter
    · cases hread

theorem readFakeTime_of_ne (h : Document v document) (hstring : ∀ text, v ≠ .string text) :
    ∃ fault, whole readFakeTime document = .error fault := by
  cases h with
  | alone hbefore hvalue hafter =>
      have hread := settles_string hbefore hvalue hafter.stops
      rw [Value.asString_of_ne hstring] at hread
      obtain ⟨unread, hread⟩ := hread.eq_error
      refine ⟨{ v.mistaken "a string" with unread := some unread }, whole_of_error ?_⟩
      rw [readFakeTime, hread]

/-- A text is taken as a fake time by itself, with a request and from JSON, or by none of them; what is taken is
kept as it stands and read back from its literal. No run brings any other fake time to a managed process or to
the confirmation of a launch than the ones that calls have asked for. -/
theorem admitted_alike {World : Type} {behaviour : Behaviour World} {deployment : Deployment}
    {s : Shared World} (h : Shared.Reachable behaviour deployment s) :
    (∀ text, FakeTime.Usable text → ∃ time : FakeTime, time.text = text ∧
      FakeTime.ofText text = .ok time ∧ FakeTime.ofRequest (some text) = .ok time ∧
      ∀ document, Document (.string text) document → whole readFakeTime document = .ok time) ∧
    (∀ text, ¬FakeTime.Usable text → ∃ refusal, FakeTime.ofText text = .error refusal ∧
      FakeTime.ofRequest (some text) = .error refusal ∧
      ∀ document, Document (.string text) document →
        whole readFakeTime document = .error (.unplaced (.refused refusal.message))) ∧
    (∀ document time, whole readFakeTime document = .ok time → Document (.string time.text) document) ∧
    (∀ v document, Document v document → (∀ text, v ≠ .string text) →
      ∃ fault, whole readFakeTime document = .error fault) ∧
    (∀ time : FakeTime, whole readFakeTime (Utf8.encode (literal time.text)) = .ok time) ∧
    (∀ handle time, s.seat.handle? = some handle → handle.fakeTime = some time →
      Shared.Requested s.history time ∧ FakeTime.Usable time.text) ∧
    (∀ completion ∈ completions s.history, ∀ confirmation time,
      completion.reply = .launched (.ok confirmation) → confirmation.fakeTime = some time →
        completion.operation = .restartWith (some time.text) ∧ FakeTime.Usable time.text) ∧
    ∀ completion ∈ completions s.history, ∀ text, completion.operation = .restartWith (some text) →
      ¬FakeTime.Usable text →
        ∃ refusal, FakeTime.ofText text = .error refusal ∧ completion.reply = .refused refusal := by
  refine ⟨?_, ?_, fun document time hread => document_of_readFakeTime hread,
    fun v document hdocument hstring => readFakeTime_of_ne hdocument hstring,
    fun time => whole_of_read (readFakeTime_literal time), ?_, ?_, ?_⟩
  · intro text husable
    have htext := FakeTime.ofText_of_usable husable
    refine ⟨_, rfl, htext, htext, fun document hdocument => ?_⟩
    rw [readFakeTime_of_document hdocument, htext]
  · intro text hunusable
    obtain ⟨refusal, hrefusal⟩ := FakeTime.ofText_of_not_usable hunusable
    refine ⟨refusal, hrefusal, hrefusal, fun document hdocument => ?_⟩
    rw [readFakeTime_of_document hdocument, hrefusal]
  · exact fun handle time hhandle htime => ⟨h.requested_of_handle hhandle htime, time.usable⟩
  · intro completion hmem confirmation time hreply htime
    have hasks := h.asks_of_confirmed hmem hreply
    rw [htime] at hasks
    exact ⟨Shared.eq_restartWith_of_asks hasks, time.usable⟩
  · intro completion hmem text hoperation hunusable
    obtain ⟨refusal, hrefusal⟩ := FakeTime.ofText_of_not_usable hunusable
    refine ⟨refusal, hrefusal, h.refused_of_task hmem ?_⟩
    rw [hoperation, Operation.task, FakeTime.ofRequest, hrefusal]
    rfl

/-- The process of a supervisor that has replaced its first one; its fake time and a NUL, both escaped. -/
theorem admitted_alike_replaced :
    ∃ s : Shared ProcessTable, Shared.Reachable ProcessTable.host .standard s ∧
      s.seat.handle? = some Shared.Sample.secondHandle ∧
      Shared.Requested s.history Shared.Sample.nextDay ∧
      whole readFakeTime (0x22 :: (Utf8.encode "\\u002b1d" ++ [0x22])) = .ok Shared.Sample.nextDay ∧
      ∃ refusal, FakeTime.ofText "\x00" = .error refusal ∧
        whole readFakeTime (0x22 :: (Utf8.encode "\\u0000" ++ [0x22])) =
          .error (.unplaced (.refused refusal.message)) := by
  obtain ⟨s, hs, -, hseat⟩ := Shared.Sample.replaced_reaches
  have hhandle : s.seat.handle? = some Shared.Sample.secondHandle := by
    rw [hseat]
    rfl
  obtain ⟨htaken, hrefused, -, -, -, hmanaged, -⟩ := admitted_alike hs.of_truthful
  have hescaped := document_of_denotes (.string (@says_of_literalText (Utf8.encode "\\u002b1d") "+1d"
    (by decide +kernel)))
  have hnul := document_of_denotes (.string (@says_of_literalText (Utf8.encode "\\u0000") "\x00"
    (by decide +kernel)))
  obtain ⟨time, htime, -, -, hread⟩ := htaken "+1d" Shared.Sample.nextDay.usable
  obtain ⟨refusal, hrefusal, -, hreads⟩ := hrefused "\x00" fun husable => husable.2 (by decide)
  have hnext : time = Shared.Sample.nextDay := by
    cases time
    cases htime
    rfl
  exact ⟨s, hs.of_truthful, hhandle, (hmanaged _ _ hhandle rfl).1, hnext ▸ hread _ hescaped, refusal,
    hrefusal, hreads _ hnul⟩

end Control

end ClockWarden
