import ClockWarden.Proofs.Control.Objects
import ClockWarden.Proofs.Service.BadBodies

/-! Objects that are sent to set the fake time. Whatever else they hold, and however they are written, the values
that they give for the fake time decide what becomes of them: two objects with the same values are taken for the
same request, or they are refused with the same status and the same reason, but for the place that the reason
names (`same_of_times`). Only an object that is too long is refused for what else it holds. -/

namespace ClockWarden

namespace Json

/-- A reason with the place in the text that it names. -/
def located (reason : String) (line column : Nat) : String :=
  reason ++ " at line " ++ toString line ++ " column " ++ toString column

/-- The words of a fault in front of its position. -/
def Fault.words (fault : Fault) : String :=
  match fault.place with
  | none => fault.cause.message
  | some place => place.text ++ ": " ++ fault.cause.message

theorem message_eq_located (fault : Fault) (unread text : Bytes) :
    ∃ line column, Fault.message { fault with unread := some unread } text =
      located fault.cause.message line column :=
  ⟨(Fault.position { fault with unread := some unread } text).1,
    (Fault.position { fault with unread := some unread } text).2, rfl⟩

theorem placedMessage_eq_located (fault : Fault) (unread text : Bytes) :
    ∃ line column, Fault.placedMessage { fault with unread := some unread } text =
      located fault.words line column := by
  obtain ⟨line, column, hmessage⟩ := message_eq_located fault unread text
  obtain ⟨cause, _, place⟩ := fault
  refine ⟨line, column, ?_⟩
  cases place with
  | none => exact hmessage
  | some place =>
      change place.text ++ ": " ++ Fault.message _ text = located (place.text ++ ": " ++ cause.message) _ _
      rw [show Fault.message _ text = _ from hmessage]
      simp only [located, String.append_assoc]

end Json

namespace Control

open Http Json TimeRequest

/-- A request that sends an object as JSON to set the fake time. -/
structure Sends (request : Request) (members : List (String × Value)) : Prop where
  asks : AsksForTime request
  json : request.hasJson = true
  object : Document (.object members) request.body

/-- How a body is refused for a fault: the status, and the reason in front of the position. -/
def rejection (fault : Fault) : Nat × String :=
  match fault.cause.category with
  | .data => (422, "Failed to deserialize the JSON body into the target type: " ++ fault.words)
  | _ => (400, "Failed to parse the request body as JSON: " ++ fault.words)

variable {request request' : Request} {members members' : List (String × Value)}

theorem settles_body {text : Bytes} (h : Document (.object members) text) :
    ∃ after, Blanks after ∧ Settles after (decode (times members)) (shape.read text) := by
  cases h with
  | alone hbefore hvalue hafter => exact ⟨_, hafter, settles_read hbefore hvalue _⟩

theorem whole_of_document {text : Bytes} (h : Document (.object members) text) {given : TimeRequest}
    (hgiven : decode (times members) = .ok given) : whole shape.read text = .ok given := by
  obtain ⟨after, hafter, hread⟩ := settles_body h
  rw [hgiven] at hread
  exact whole_of_ok hread.eq_ok hafter

theorem whole_of_refused {text : Bytes} (h : Document (.object members) text) {fault : Fault}
    (hfault : decode (times members) = .error fault) : ∃ found, whole shape.read text = .error found := by
  obtain ⟨after, -, hread⟩ := settles_body h
  rw [hfault] at hread
  obtain ⟨unread, hread⟩ := hread.eq_error
  exact ⟨_, whole_of_error hread⟩

namespace Sends

variable (h : Sends request members)
include h

theorem refuses_of_long (hlong : bodyLimit < request.body.length) :
    Refuses request 413 "Failed to buffer the request body: length limit exceeded" :=
  h.asks.refuses (readBody_of_long h.json hlong)

variable (hshort : request.body.length ≤ bodyLimit)
include hshort

theorem readBody_eq_ok {given : TimeRequest} (hgiven : decode (times members) = .ok given) :
    readBody request = .ok given := by
  obtain ⟨after, -, hread⟩ := settles_body h.object
  rw [hgiven] at hread
  simp only [readBody, h.json, isLonger_eq_false hshort, hread.eq_ok]
  rfl

theorem refuses {fault : Fault} (hfault : decode (times members) = .error fault) :
    ∃ line column, Refuses request (rejection fault).1 (located (rejection fault).2 line column) := by
  obtain ⟨after, -, hread⟩ := settles_body h.object
  rw [hfault] at hread
  obtain ⟨unread, hread⟩ := hread.eq_error
  obtain ⟨line, column, hmessage⟩ := placedMessage_eq_located fault unread request.body
  refine ⟨line, column, h.asks.refuses ?_⟩
  simp only [readBody, h.json, isLonger_eq_false hshort, hread, hmessage, rejection]
  cases fault.cause.category with
  | data => simp [located, String.append_assoc]
  | _ => simp [located, String.append_assoc]

end Sends

/-- A reason is read back from the response, so two that differ are told apart. -/
theorem Refuses.reason_eq {status status' : Nat} {reason reason' : String} (h : Refuses request status reason)
    (h' : Refuses request' status' reason')
    (hsame : serve unreliable (fun _ => none) request = serve unreliable (fun _ => none) request') :
    reason = reason' := by
  rw [h.served, h'.served] at hsame
  have hbody : (refusal status reason).body = (refusal status' reason').body :=
    congrArg Response.body (Option.some.inj hsame)
  have htold := h.told.2
  rw [hbody, h'.told.2] at htold
  cases htold
  rfl

theorem serve_of_readBody (h : AsksForTime request) (h' : AsksForTime request')
    (hbody : readBody request = readBody request') {m : Type → Type} [Monad m] (control : TimeControl m)
    (log : Log.Entry → m Unit) : serve control log request = serve control log request' := by
  simp only [serve, h.demand, h'.demand, timeDemand, hbody]

end Control

namespace Service

open Control Json TimeRequest

/-- An object decodes to the text that is given for the fake time, or to nothing if none or `null` is given, and
it is refused if more is given, or something else. Whatever else two objects hold, if they give the same values
for the fake time they are served alike, or are refused with the same status and the same reason, which name
places of their own. Only an object that is too long is refused as such. -/
theorem same_of_times :
    (∀ text members, Document (.object members) text →
      (times members = [] ∨ times members = [.null] → whole shape.read text = .ok ⟨none⟩) ∧
      (∀ s, times members = [.string s] → whole shape.read text = .ok ⟨some s⟩) ∧
      (1 < (times members).length → ∃ fault, whole shape.read text = .error fault) ∧
      ∀ v, times members = [v] → v ≠ .null → (∀ s, v ≠ .string s) →
        ∃ fault, whole shape.read text = .error fault) ∧
    (∀ request members, Sends request members → bodyLimit < request.body.length →
      Refuses request 413 "Failed to buffer the request body: length limit exceeded") ∧
    ∀ request request' members members', Sends request members → Sends request' members' →
      times members = times members' → request.body.length ≤ bodyLimit →
      request'.body.length ≤ bodyLimit →
        (∀ given, whole shape.read request.body = .ok given →
          readBody request = .ok given ∧
          ∀ (m : Type → Type) [Monad m] (control : TimeControl m) (log : Log.Entry → m Unit),
            serve control log request = serve control log request') ∧
        ∀ fault, whole shape.read request.body = .error fault →
          ∃ status reason line column line' column',
            Refuses request status (located reason line column) ∧
            Refuses request' status (located reason line' column') := by
  refine ⟨fun text members h => ⟨?_, ?_, ?_, ?_⟩, fun request members h hlong => h.refuses_of_long hlong, ?_⟩
  · rintro (hnone | hnull)
    · exact whole_of_document h (by rw [hnone]; rfl)
    · exact whole_of_document h (by rw [hnull]; rfl)
  · intro s hs
    exact whole_of_document h (by rw [hs]; rfl)
  · intro hrepeated
    obtain ⟨fault, hfault⟩ := decode_of_repeated hrepeated
    exact whole_of_refused h hfault
  · intro v hv hnull hstring
    obtain ⟨fault, hfault⟩ := decode_of_mistaken hnull hstring
    exact whole_of_refused h (hv ▸ hfault)
  · intro request request' members members' h h' htimes hshort hshort'
    cases hdecode : decode (times members) with
    | ok given =>
        rw [whole_of_document h.object hdecode]
        refine ⟨?_, nofun⟩
        rintro _ ⟨⟩
        have hbody := h.readBody_eq_ok hshort hdecode
        refine ⟨hbody, fun m _ control log => serve_of_readBody h.asks h'.asks ?_ control log⟩
        rw [hbody, h'.readBody_eq_ok hshort' (htimes ▸ hdecode)]
    | error fault =>
        obtain ⟨found, hfound⟩ := whole_of_refused h.object hdecode
        rw [hfound]
        refine ⟨nofun, fun _ _ => ?_⟩
        obtain ⟨line, column, hrefuses⟩ := h.refuses hshort hdecode
        obtain ⟨line', column', hrefuses'⟩ := h'.refuses hshort' (htimes ▸ hdecode)
        exact ⟨_, _, line, column, line', column', hrefuses, hrefuses'⟩

/-! ### Requests with the same fake time

The text of one is escaped, and stands behind a member that holds one of the same name; another one is long. Of
two more the number stands at different places. -/

namespace Sample

def posted (body : Bytes) : Http.Request where
  method := "POST"
  target := timePath
  headers := [(Utf8.encode "content-type", Utf8.encode "application/json")]
  body := body

def prompt : Http.Request := posted (Utf8.encode "\x7b\"fake_time\":\"+1d\"\x7d")

def escaped : Http.Request :=
  posted (Utf8.encode
    "\x7b \"x\" : \x7b\"fake_time\":[null]\x7d, \"fake\\u005ftime\" : \"\\u002b1d\" \x7d")

/-- A number that is as long as a body may be. -/
def longNumeral : Bytes := 0x31 :: List.replicate bodyLimit 0x30

/-- A body that holds a number besides the fake time. -/
def bodyWith (numeral : Bytes) : Bytes :=
  Utf8.encode "\x7b\"fake_time\":\"+1d\",\"x\":" ++ (numeral ++ [0x7D])

def burdened : Http.Request := posted (bodyWith longNumeral)

def numericFirst : Http.Request := posted (Utf8.encode "\x7b\"fake_time\":5\x7d")

def numericLater : Http.Request := posted (Utf8.encode "\x7b\"x\":0,\"fake_time\":5\x7d")

/-- The reason for which both are refused, up to the column that it names. -/
def mismatch : String :=
  "Failed to deserialize the JSON body into the target type: fake_time: invalid type: integer `5`, expected a " ++
    "string at line 1 column "

theorem says_fakeTime : Says (Utf8.encode "fake_time") "fake_time" := says_of_visible (by simp)

theorem says_x : Says (Utf8.encode "x") "x" := says_of_visible (by simp)

theorem says_nextDay : Says (Utf8.encode "+1d") "+1d" := says_of_visible (by simp)

theorem numeral_of_whole {whole : Bytes} (h : Whole whole) : Numeral whole := by
  simpa using Numeral.natural h .none .none

theorem numeral_five : Numeral [0x35] := numeral_of_whole (.digits (by decide) (by decide) (by simp [Digits]))

theorem numeral_long : Numeral longNumeral := by
  refine numeral_of_whole (.digits (by decide) (by decide) fun b hb => ?_)
  rw [List.eq_of_mem_replicate hb]
  decide

theorem sends_posted {members : List (String × Value)} {body text : Bytes}
    (h : Denotes (.value (.object members)) text) (hbody : body = text) : Sends (posted body) members where
  asks := ⟨rfl, show (posted []).path = timePath by decide⟩
  json := show (posted []).hasJson = true by decide
  object := hbody ▸ document_of_denotes h

theorem sends_prompt : Sends prompt [("fake_time", .string "+1d")] :=
  sends_posted (.object (.member (.first blanks_nil) says_fakeTime blanks_nil blanks_nil (.string says_nextDay)
    (.endObject blanks_nil))) (by decide)

theorem sends_escaped :
    Sends escaped [("x", .object [("fake_time", .list [.null])]), ("fake_time", .string "+1d")] := by
  have hspace : Blanks [0x20] := by simp [Blanks, isBlank]
  have hname : Says (Utf8.encode "fake\\u005ftime") "fake_time" := says_of_literalText (by decide +kernel)
  have htext : Says (Utf8.encode "\\u002b1d") "+1d" := says_of_literalText (by decide +kernel)
  have hinner := Denotes.object (.member (.first blanks_nil) says_fakeTime blanks_nil blanks_nil
    (.list (.element (.first blanks_nil) .null (.endList blanks_nil))) (.endObject blanks_nil))
  exact sends_posted (.object (.member (.first hspace) says_x hspace hspace hinner
    (.member (.comma blanks_nil hspace) hname hspace hspace (.string htext) (.endObject hspace)))) (by decide +kernel)

theorem denotes_bodyWith {numeral : Bytes} (h : Numeral numeral) :
    Denotes (.value (.object [("fake_time", .string "+1d"), ("x", .number numeral)])) (bodyWith numeral) := by
  have hbody := Denotes.object (.member (.first blanks_nil) says_fakeTime blanks_nil blanks_nil
    (.string says_nextDay) (.member separates_comma says_x blanks_nil blanks_nil (.number h)
      (.endObject blanks_nil)))
  have hopen : Utf8.encode "\x7b\"fake_time\":\"+1d\",\"x\":" = 0x7B :: 0x22 :: (Utf8.encode "fake_time" ++
      0x22 :: 0x3A :: 0x22 :: (Utf8.encode "+1d" ++ 0x22 :: 0x2C :: 0x22 :: (Utf8.encode "x" ++ [0x22, 0x3A]))) := by
    decide
  simpa [bodyWith, hopen] using hbody

theorem sends_burdened :
    Sends burdened [("fake_time", .string "+1d"), ("x", .number longNumeral)] :=
  sends_posted (denotes_bodyWith numeral_long) rfl

theorem sends_numericFirst : Sends numericFirst [("fake_time", .number [0x35])] :=
  sends_posted (.object (.member (.first blanks_nil) says_fakeTime blanks_nil blanks_nil (.number numeral_five)
    (.endObject blanks_nil))) (by decide)

theorem sends_numericLater : Sends numericLater [("x", .number [0x30]), ("fake_time", .number [0x35])] :=
  sends_posted (.object (.member (.first blanks_nil) says_x blanks_nil blanks_nil
    (.number (numeral_of_whole .zero)) (.member separates_comma says_fakeTime blanks_nil blanks_nil
      (.number numeral_five) (.endObject blanks_nil)))) (by decide)

theorem length_longNumeral : longNumeral.length = bodyLimit + 1 := by
  rw [longNumeral, List.length_cons, List.length_replicate]

theorem length_bodyWith (numeral : Bytes) : numeral.length ≤ (bodyWith numeral).length := by
  rw [bodyWith, List.length_append, List.length_append]
  exact (Nat.le_add_right _ _).trans (Nat.le_add_left _ _)

theorem length_burdened : bodyLimit < burdened.body.length :=
  length_longNumeral.ge.trans (length_bodyWith longNumeral)

end Sample

theorem same_of_times_escaped :
    whole shape.read Sample.prompt.body = .ok ⟨some "+1d"⟩ ∧ readBody Sample.prompt = .ok ⟨some "+1d"⟩ ∧
      (∀ (m : Type → Type) [Monad m] (control : TimeControl m) (log : Log.Entry → m Unit),
        serve control log Sample.prompt = serve control log Sample.escaped) ∧
      (∃ fault, whole shape.read Sample.numericFirst.body = .error fault) ∧
      ∃ status reason line column line' column',
        Refuses Sample.numericFirst status (located reason line column) ∧
        Refuses Sample.numericLater status (located reason line' column') := by
  obtain ⟨hdecodes, -, hsame⟩ := same_of_times
  have hwhole := (hdecodes _ _ Sample.sends_prompt.object).2.1 _ rfl
  obtain ⟨hbody, hserve⟩ := (hsame _ _ _ _ Sample.sends_prompt Sample.sends_escaped rfl
    (by decide +kernel) (by decide +kernel)).1 _ hwhole
  obtain ⟨fault, hfault⟩ := (hdecodes _ _ Sample.sends_numericFirst.object).2.2.2 _ rfl (by simp) (by simp)
  exact ⟨hwhole, hbody, hserve, ⟨fault, hfault⟩, (hsame _ _ _ _ Sample.sends_numericFirst
    Sample.sends_numericLater rfl (by decide +kernel) (by decide +kernel)).2 fault hfault⟩

/-- The same value for the fake time is refused with two reasons, as it stands at two places; and the same text
is taken from one object and not from another, which is too long for what else it holds. -/
theorem served_apart_despite_times :
    (Sends Sample.numericFirst [("fake_time", .number [0x35])] ∧
      Sends Sample.numericLater [("x", .number [0x30]), ("fake_time", .number [0x35])] ∧
      times [("fake_time", .number [0x35])] =
        times [("x", .number [0x30]), ("fake_time", .number [0x35])] ∧
      ¬∀ (m : Type → Type) [Monad m] (control : TimeControl m) (log : Log.Entry → m Unit),
        serve control log Sample.numericFirst = serve control log Sample.numericLater) ∧
    Sends Sample.prompt [("fake_time", .string "+1d")] ∧
      Sends Sample.burdened [("fake_time", .string "+1d"), ("x", .number Sample.longNumeral)] ∧
      times [("fake_time", .string "+1d")] =
        times [("fake_time", .string "+1d"), ("x", .number Sample.longNumeral)] ∧
      ¬∀ (m : Type → Type) [Monad m] (control : TimeControl m) (log : Log.Entry → m Unit),
        serve control log Sample.prompt = serve control log Sample.burdened := by
  have hfirst : Refuses Sample.numericFirst 422 (Sample.mismatch ++ "14") :=
    Sample.sends_numericFirst.asks.refuses (by decide +kernel)
  have hlater : Refuses Sample.numericLater 422 (Sample.mismatch ++ "20") :=
    Sample.sends_numericLater.asks.refuses (by decide +kernel)
  have hlong := Sample.sends_burdened.refuses_of_long Sample.length_burdened
  refine ⟨⟨Sample.sends_numericFirst, Sample.sends_numericLater, ?_, fun hsame => ?_⟩,
    Sample.sends_prompt, Sample.sends_burdened, ?_, fun hsame => ?_⟩
  · rw [times_other (show "x" ≠ "fake_time" by decide)]
  · exact absurd (hfirst.reason_eq hlater (hsame Option unreliable fun _ => none)) (by decide +kernel)
  · rw [times_time, times_time, times_other (by decide)]
  · have hserved := hsame Option unreliable fun _ => none
    have hnone : serve unreliable (fun _ => none) Sample.prompt = none := by decide +kernel
    rw [hnone, hlong.served] at hserved
    cases hserved

end Service

end ClockWarden
