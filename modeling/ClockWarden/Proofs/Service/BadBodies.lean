import ClockWarden.Proofs.Control.Requests
import ClockWarden.Proofs.Service.SetTime

/-! Bodies that are no request. Whatever bytes are sent as JSON to set the fake time, they are a request, and
are taken for what they say, or they are refused with a reason, and whatever serves the requests is not called
(`Control.Refuses`). The status tells what is wrong with them: that they say something else, that they say
nothing or too much, or that they are too many (`bad_bodies_refused`). -/

namespace ClockWarden

namespace Control

open Http

variable {request : Request}

theorem isLonger_iff {α : Type} {list : List α} {n : Nat} : isLonger list n = true ↔ n < list.length := by
  induction list generalizing n with
  | nil => simp [isLonger]
  | cons a list ih =>
      cases n with
      | zero => simp [isLonger]
      | succ n => rw [isLonger, ih, List.length_cons, Nat.add_lt_add_iff_right]

theorem isLonger_eq_false {α : Type} {list : List α} {n : Nat} (h : list.length ≤ n) :
    isLonger list n = false := by
  rw [Bool.eq_false_iff, Ne, isLonger_iff]
  omega

section Reading

variable (hjson : request.hasJson = true)
include hjson

theorem readBody_of_long (hlong : bodyLimit < request.body.length) :
    readBody request = .error (.badBody 413 "Failed to buffer the request body: length limit exceeded") := by
  simp only [readBody, hjson, isLonger_iff.mpr hlong, if_true]
  rfl

variable (hshort : request.body.length ≤ bodyLimit)
include hshort

/-- A body that is short enough is decided by what is read from it. -/
theorem readBody_of_encodes {given : Option String} (h : TimeRequest.Encodes given request.body) :
    readBody request = .ok ⟨given⟩ := by
  obtain ⟨rest, hread⟩ := TimeRequest.read_of_encodes h
  simp only [readBody, hjson, isLonger_eq_false hshort, hread]
  rfl

theorem readBody_of_mismatched (h : TimeRequest.Mismatched request.body) :
    ∃ reason, readBody request = .error (.badBody 422 reason) := by
  obtain ⟨fault, hread, hdata⟩ := TimeRequest.read_of_mismatched h
  simp only [readBody, hjson, isLonger_eq_false hshort, hread, hdata]
  exact ⟨_, rfl⟩

theorem readBody_of_malformed (hrequest : ¬TimeRequest.IsRequest request.body)
    (hother : ¬TimeRequest.Mismatched request.body) :
    ∃ reason, readBody request = .error (.badBody 400 reason) := by
  cases hread : TimeRequest.shape.read request.body with
  | ok result => exact absurd ⟨_, TimeRequest.encodes_iff.mpr ⟨_, hread⟩⟩ hrequest
  | error fault =>
      have hformal : fault.cause.category ≠ .data :=
        fun hdata => hother (TimeRequest.mismatched_iff.mpr ⟨fault, hread, hdata⟩)
      simp only [readBody, hjson, isLonger_eq_false hshort, hread]
      cases hcategory : fault.cause.category with
      | data => exact absurd hcategory hformal
      | _ => exact ⟨_, rfl⟩

end Reading

/-- A request is refused with a status and a reason: it is answered with them at once, and whatever serves the
requests is not called. -/
structure Refuses (request : Request) (status : Nat) (reason : String) : Prop where
  served : ∀ (m : Type → Type) [Monad m] (control : TimeControl m) (log : Log.Entry → m Unit),
    serve control log request = pure (refusal status reason)
  told : (refusal status reason).status = status ∧
    ErrorBody.read (Utf8.encode (refusal status reason).body) = .ok (⟨reason⟩, [])

/-- What can only break off, as soon as it is called. -/
def unreliable : TimeControl Option := ⟨fun _ => none, none⟩

/-- A request is refused in one way. -/
theorem Refuses.status_eq {status status' : Nat} {reason reason' : String}
    (h : Refuses request status reason) (h' : Refuses request status' reason') : status = status' := by
  have hserved := h.served Option unreliable fun _ => none
  rw [h'.served Option unreliable fun _ => none] at hserved
  exact congrArg Response.status (Option.some.inj hserved).symm

/-- A request for which a restart is asked is not refused. -/
theorem not_refuses_of_restart {time : FakeTime} (h : Demand.ofRequest request = .restart time)
    (status : Nat) (reason : String) : ¬Refuses request status reason := by
  intro hrefuses
  have hserved := hrefuses.served Option unreliable fun _ => none
  simp only [serve, h] at hserved
  cases hserved

theorem AsksForTime.refuses (h : AsksForTime request) {status : Nat} {reason : String}
    (hbody : readBody request = .error (.badBody status reason)) : Refuses request status reason := by
  refine ⟨fun m _ control log => ?_, rfl, ErrorBody.read_text ⟨reason⟩⟩
  obtain ⟨status', reason', heq, -, hserve⟩ := (h.decides control log).refused _ hbody
  cases heq
  exact hserve

end Control

namespace Service

open Control

variable {request : Http.Request}

/-- The bytes that are sent as JSON to set the fake time are taken for the request that they are, or they are
refused: for their length; for what they say, if that is something else; or else for their form, which a
number that is too large and a list that goes on behind the fake time count as. -/
theorem bad_bodies_refused (h : AsksForTime request) (hjson : request.hasJson = true) :
    (bodyLimit < request.body.length → ∃ reason, Refuses request 413 reason) ∧
      (request.body.length ≤ bodyLimit →
        (∀ given, TimeRequest.Encodes given request.body → readBody request = .ok ⟨given⟩) ∧
        (TimeRequest.Mismatched request.body → ∃ reason, Refuses request 422 reason) ∧
        (TimeRequest.Excessive request.body → ∃ reason, Refuses request 400 reason) ∧
        (¬TimeRequest.IsRequest request.body → ¬TimeRequest.Mismatched request.body →
          ∃ reason, Refuses request 400 reason)) := by
  have hmalformed (hshort : request.body.length ≤ bodyLimit) (hrequest : ¬TimeRequest.IsRequest request.body)
      (hother : ¬TimeRequest.Mismatched request.body) : ∃ reason, Refuses request 400 reason := by
    obtain ⟨reason, hbody⟩ := readBody_of_malformed hjson hshort hrequest hother
    exact ⟨reason, h.refuses hbody⟩
  refine ⟨fun hlong => ⟨_, h.refuses (readBody_of_long hjson hlong)⟩, fun hshort => ⟨?_, ?_, ?_, ?_⟩⟩
  · exact fun given hencodes => readBody_of_encodes hjson hshort hencodes
  · intro hmismatched
    obtain ⟨reason, hbody⟩ := readBody_of_mismatched hjson hshort hmismatched
    exact ⟨reason, h.refuses hbody⟩
  · intro hexcessive
    obtain ⟨hrequest, hother⟩ := hexcessive.not_read
    exact hmalformed hshort (fun ⟨given, hencodes⟩ => hrequest given hencodes) hother
  · exact hmalformed hshort

/-! ### Six bodies

One gives a number for the fake time, one a number that is too large, one ends too early, one is a list with
something behind the fake time, one is white space beyond the limit, and one is a request with more text behind
it. -/

namespace Sample

def numeric : Http.Request := requestOfLine "POST /set_time \x7b\"fake_time\": 5\x7d"

def boundless : Http.Request := requestOfLine "POST /set_time \x7b\"fake_time\": 1e999\x7d"

def listed : Http.Request := requestOfLine "POST /set_time [\"+1d\",5]"

def truncated : Http.Request := requestOfLine "POST /set_time \x7b\"fake_time\": \"+1d"

def overlong : Http.Request := { numeric with body := List.replicate (bodyLimit + 1) 0x20 }

def followed : Http.Request := requestOfLine "POST /set_time \x7b\"fake_time\":\"+1d\"\x7d \x7b"

theorem excessive_boundless : TimeRequest.Excessive boundless.body := by
  have hnumeral : Json.NumeralTo [0x7D] [0x31, 0x65, 0x39, 0x39, 0x39] :=
    .natural (.digits (by decide) (by decide) (List.forall_mem_nil _)) .none
      (.digits (Or.inl rfl) (Or.inl rfl) (by decide) (by simp [Json.Digits, Json.isDigit]))
      (by simp [Json.Delimits, Json.isDigit])
  have hname : Json.Says (Utf8.encode "fake_time") "fake_time" := Json.says_of_visible (by simp)
  have hblank : Json.Blanks [0x20] := List.forall_mem_singleton.mpr (by decide)
  have hbody : boundless.body = [] ++ 0x7B :: ([] ++ ([] ++ 0x22 :: (Utf8.encode "fake_time" ++
      0x22 :: ([] ++ 0x3A :: ([0x20] ++ ([0x31, 0x65, 0x39, 0x39, 0x39] ++ [0x7D])))))) := by
    decide
  rw [hbody]
  exact .member Json.blanks_nil .none (.first Json.blanks_nil) hname Json.blanks_nil hblank
    (.numeral hnumeral (by decide +kernel))

theorem excessive_listed : TimeRequest.Excessive listed.body := by
  have htext : Json.Says (Utf8.encode "+1d") "+1d" := Json.says_of_visible (by simp)
  have hbody : listed.body = [] ++ 0x5B :: ([] ++ (0x22 :: (Utf8.encode "+1d" ++ [0x22]) ++
      ([] ++ 0x2C :: Utf8.encode "5]"))) := by
    decide
  rw [hbody]
  exact .further Json.blanks_nil Json.blanks_nil (.text htext) Json.blanks_nil _

end Sample

theorem bad_bodies_refused_sampled :
    readBody Sample.followed = .ok ⟨some "+1d"⟩ ∧ (∃ reason, Refuses Sample.numeric 422 reason) ∧
      (∃ reason, Refuses Sample.boundless 400 reason) ∧ (∃ reason, Refuses Sample.listed 400 reason) ∧
      (∃ reason, Refuses Sample.truncated 400 reason) ∧ ∃ reason, Refuses Sample.overlong 413 reason := by
  have hfollowed : TimeRequest.Encodes (some "+1d") Sample.followed.body :=
    TimeRequest.encodes_iff.mpr ⟨[0x20, 0x7B], by decide +kernel⟩
  refine ⟨?_, ?_, ?_, ?_, ?_, ?_⟩
  · exact ((@bad_bodies_refused Sample.followed (by decide +kernel) (by decide +kernel)).2
      (by decide +kernel)).1 _ hfollowed
  · exact ((@bad_bodies_refused Sample.numeric (by decide +kernel) (by decide +kernel)).2
      (by decide +kernel)).2.1 (by decide +kernel)
  · exact ((@bad_bodies_refused Sample.boundless (by decide +kernel) (by decide +kernel)).2
      (by decide +kernel)).2.2.1 Sample.excessive_boundless
  · exact ((@bad_bodies_refused Sample.listed (by decide +kernel) (by decide +kernel)).2
      (by decide +kernel)).2.2.1 Sample.excessive_listed
  · exact ((@bad_bodies_refused Sample.truncated (by decide +kernel) (by decide +kernel)).2
      (by decide +kernel)).2.2.2 (by decide +kernel) (by decide +kernel)
  · refine (@bad_bodies_refused Sample.overlong (by decide +kernel) (by decide +kernel)).1 ?_
    rw [Sample.overlong, List.length_replicate]
    exact Nat.lt_succ_self _

/-- A body that says something else is not refused as malformed, and neither is one that is too long; a
request with more text behind it is not refused at all. -/
theorem bad_bodies_told_apart :
    (AsksForTime Sample.numeric ∧ Sample.numeric.hasJson = true ∧
      Sample.numeric.body = Utf8.encode "\x7b\"fake_time\": 5\x7d" ∧
      ¬∃ reason, Refuses Sample.numeric 400 reason) ∧
    (AsksForTime Sample.overlong ∧ Sample.overlong.hasJson = true ∧
      Sample.overlong.body = List.replicate (bodyLimit + 1) 0x20 ∧
      ¬∃ reason, Refuses Sample.overlong 400 reason) ∧
    AsksForTime Sample.followed ∧ Sample.followed.hasJson = true ∧
      Sample.followed.body = Utf8.encode "\x7b\"fake_time\":\"+1d\"\x7d \x7b" ∧
      ¬∃ status reason, Refuses Sample.followed status reason := by
  have hnumeric : AsksForTime Sample.numeric := by decide +kernel
  have hoverlong : AsksForTime Sample.overlong := by decide +kernel
  refine ⟨⟨hnumeric, by decide +kernel, by decide +kernel, ?_⟩,
    ⟨hoverlong, by decide +kernel, rfl, ?_⟩, by decide +kernel, by decide +kernel, by decide +kernel, ?_⟩
  · rintro ⟨reason, hrefuses⟩
    obtain ⟨reason', hbody⟩ := @readBody_of_mismatched Sample.numeric (by decide +kernel)
      (by decide +kernel) (by decide +kernel)
    exact absurd (hrefuses.status_eq (hnumeric.refuses hbody)) (by decide)
  · rintro ⟨reason, hrefuses⟩
    have hlong : bodyLimit < Sample.overlong.body.length := by
      rw [Sample.overlong, List.length_replicate]
      exact Nat.lt_succ_self _
    have hbody := @readBody_of_long Sample.overlong (by decide +kernel) hlong
    exact absurd (hrefuses.status_eq (hoverlong.refuses hbody)) (by decide)
  · rintro ⟨status, reason, hrefuses⟩
    have hdemand : Demand.ofRequest Sample.followed = .restart Supervisor.Shared.Sample.nextDay := by
      decide +kernel
    exact not_refuses_of_restart hdemand status reason hrefuses

end Service

end ClockWarden
