import ClockWarden.Proofs.Control.Demands
import ClockWarden.Proofs.Service.Conduct
import ClockWarden.Proofs.Supervisor.Outcome

/-! A request to set the fake time does what its body says. A body that is refused, or that holds no usable
fake time, is answered at once, and whatever serves the requests is not called; any other one is a single
restart under the text that was decoded, and is answered with what comes of it (`Control.Decides`). The
supervisor looks at the fake time once more, and never finds anything that the endpoint has let pass
(`set_time_answered`). -/

namespace ClockWarden

open Host Supervisor

theorem FakeTime.ofRequest_text (time : FakeTime) : ofRequest (some time.text) = .ok time :=
  time.ofText_text

namespace Control

open Http

/-- The answer to a request that is refused. -/
def refusal (status : Nat) (text : String) : Response := .json status (ErrorBody.text ⟨text⟩)

variable {request : Request}

/-- A body is refused with one of four statuses. -/
theorem badBody_of_readBody {failure : Failure} (h : readBody request = .error failure) :
    ∃ status text, failure = .badBody status text ∧ status ∈ [400, 413, 415, 422] := by
  unfold readBody at h
  split at h
  · cases h
    exact ⟨415, _, rfl, by decide⟩
  · split at h
    · cases h
      exact ⟨413, _, rfl, by decide⟩
    · split at h
      · cases h
      · simp only at h
        split at h <;> cases h
        · exact ⟨422, _, rfl, by decide⟩
        · exact ⟨400, _, rfl, by decide⟩

/-- A body that is taken asks for a restart if it holds a usable fake time. -/
theorem timeDemand_of_ok {time : FakeTime} (h : readBody request = .ok ⟨some time.text⟩) :
    timeDemand request = .restart time := by
  simp only [timeDemand, h, time.ofRequest_text]

theorem timeDemand_of_error {body : TimeRequest} (h : readBody request = .ok body)
    (cause : FakeTime.Refusal) (hgiven : FakeTime.ofRequest body.fakeTime = .error cause) :
    timeDemand request = .answered (refusal 400 cause.message) := by
  simp only [timeDemand, h, hgiven]
  rfl

/-- A request without a usable fake time is answered at once. -/
theorem answered_of_unusable (h : ∀ time : FakeTime, readBody request ≠ .ok ⟨some time.text⟩) :
    ∃ response, timeDemand request = .answered response := by
  cases hdemand : timeDemand request with
  | answered response => exact ⟨response, rfl⟩
  | status isHead => exact absurd hdemand (timeDemand_ne_status isHead)
  | restart time => exact absurd (readBody_of_restart hdemand) (h time)

/-- How a request to set the fake time is answered by the endpoint, and what that calls for. -/
structure Decides {m : Type → Type} [Monad m] (control : TimeControl m) (log : Log.Entry → m Unit)
    (request : Request) : Prop where
  refused : ∀ failure, readBody request = .error failure →
    ∃ status text, failure = .badBody status text ∧ status ∈ [400, 413, 415, 422] ∧
      serve control log request = pure (refusal status text)
  missing : ∀ body, readBody request = .ok body → body.fakeTime = none ∨ body.fakeTime = some "" →
    serve control log request = pure (refusal 400 "No fake time provided")
  nul : ∀ body text, readBody request = .ok body → body.fakeTime = some text →
    '\x00' ∈ text.toList →
    serve control log request = pure (refusal 400 "Fake time must not contain NUL bytes")
  restarts : ∀ body text, readBody request = .ok body → body.fakeTime = some text → text ≠ "" →
    '\x00' ∉ text.toList →
    ∃ entry, serve control log request = (do
      log entry
      let result ← control.restartWith (some text)
      pure (restartResponse result))

theorem AsksForTime.decides {m : Type → Type} [Monad m] (h : AsksForTime request)
    (control : TimeControl m) (log : Log.Entry → m Unit) : Decides control log request := by
  have hserve {response : Response} (hdemand : timeDemand request = .answered response) :
      serve control log request = pure response := by
    simp only [serve, h.demand, hdemand]
  refine ⟨?_, ?_, ?_, ?_⟩
  · intro failure hbody
    obtain ⟨status, text, rfl, hstatus⟩ := badBody_of_readBody hbody
    refine ⟨status, text, rfl, hstatus, hserve ?_⟩
    simp only [timeDemand, hbody]
    rfl
  · intro body hbody hgiven
    refine hserve (timeDemand_of_error hbody .missing ?_)
    rcases hgiven with hnone | hempty
    · rw [hnone]
      rfl
    · rw [hempty]
      rfl
  · intro body text hbody hgiven hnul
    have hnonempty : text ≠ "" := by
      rintro rfl
      cases hnul
    refine hserve (timeDemand_of_error hbody .nul ?_)
    simp only [hgiven, FakeTime.ofRequest, FakeTime.ofText, dif_neg hnonempty, dif_pos hnul]
  · rintro ⟨given⟩ text hbody rfl hnonempty hnul
    have hdemand : timeDemand request = .restart ⟨text, hnonempty, hnul⟩ := timeDemand_of_ok hbody
    exact ⟨_, by simp only [serve, h.demand, hdemand]; rfl⟩

theorem restartResponse_of_failure {failure : Supervisor.Failure}
    (h : ∀ cause, failure ≠ .badRequest cause) :
    restartResponse (.error failure) = refusal 500 failure.message := by
  cases failure with
  | badRequest cause => exact absurd rfl (h cause)
  | _ => rfl

end Control

namespace Service

open Control

variable {request : Http.Request}

/-- The supervisor finds nothing wrong with a fake time that the endpoint has let pass. -/
theorem status_of_restart {s s' : Warden} (hs : s.Reachable) {time : FakeTime}
    {exchanges : List Exchange} {reply : Operation.Reply} {response : Http.Response}
    (hrun : Operation.Underway.machine.Runs ((Operation.restartWith (some time.text)).start s)
      exchanges (s', reply)) (h : Run.response (.restart time) reply = some response) :
    response.status = 200 ∨ response.status = 500 := by
  have hasks : (Operation.restartWith (some time.text)).Asks (some time) := ⟨time, rfl, rfl⟩
  rw [Operation.start_of_task (Operation.task_of_asks hasks)] at hrun
  have htells := Operation.tells_of_carried hs.sound (by simp)
    (.acquired (Operation.task_of_asks hasks) hrun)
  cases reply with
  | launched result =>
      cases h
      cases result with
      | ok confirmation => exact Or.inl rfl
      | error failure =>
          refine Or.inr ?_
          rw [restartResponse_of_failure]
          · rfl
          · rintro cause rfl
            exact htells.1 _ hasks
  | _ => cases h

/-- A request to set the fake time is decided by its body alone, and answered with what comes of the
restart. In front of a supervisor one that is refused makes no exchange with the host and leaves the
supervisor as it is, and one that has passed is not refused any more. -/
theorem set_time_answered (h : AsksForTime request) :
    (∀ (m : Type → Type) [Monad m] (control : TimeControl m) (log : Log.Entry → m Unit),
      Decides control log request) ∧
    ((∀ confirmation, restartResponse (.ok confirmation) =
        .json 200 (MessageBody.text ⟨confirmation.message⟩)) ∧
      (∀ cause, restartResponse (.error (.badRequest cause)) = refusal 400 cause.message) ∧
      (∀ failure, (∀ cause, failure ≠ .badRequest cause) →
        restartResponse (.error failure) = refusal 500 failure.message) ∧
      (∀ body : MessageBody, MessageBody.read (Utf8.encode body.text) = .ok (body, [])) ∧
      ∀ body : ErrorBody, ErrorBody.read (Utf8.encode body.text) = .ok (body, [])) ∧
    ∀ (s : Warden) (exchanges : List Exchange) (answer : Option Http.Response) (s' : Warden),
      s.Reachable → serve supervised Conduct.silent request s exchanges answer s' →
        ((∀ time : FakeTime, readBody request ≠ .ok ⟨some time.text⟩) →
          exchanges = [] ∧ s' = s ∧ answer.isSome) ∧
        ∀ time : FakeTime, readBody request = .ok ⟨some time.text⟩ →
          ∀ response, answer = some response → response.status = 200 ∨ response.status = 500 := by
  refine ⟨fun m _ control log => h.decides control log, ⟨fun _ => rfl, fun _ => rfl, ?_, ?_, ?_⟩, ?_⟩
  · exact fun failure hfailure => restartResponse_of_failure hfailure
  · exact MessageBody.read_text
  · exact ErrorBody.read_text
  · intro s exchanges answer s' hs hserve
    refine ⟨fun hunusable => ?_, fun time hbody response hanswer => ?_⟩
    · obtain ⟨response, hdemand⟩ := answered_of_unusable hunusable
      rw [← h.demand] at hdemand
      obtain ⟨rfl, rfl, rfl⟩ := (serve_of_answered hdemand).mp hserve
      exact ⟨rfl, rfl, rfl⟩
    · have hdemand : Demand.ofRequest request = .restart time := by
        rw [h.demand, timeDemand_of_ok hbody]
      have hoperation : (Demand.ofRequest request).operation? =
          some (.restartWith (some time.text)) := by
        rw [hdemand]
        rfl
      obtain ⟨reply, hrun, hresponse⟩ := (serve_of_operation hoperation).mp hserve
      rw [hdemand, hanswer] at hresponse
      exact status_of_restart hs hrun hresponse.symm

/-! ### Two requests

One asks for the next day, of a supervisor whose program is not there; the other lacks a fake time. -/

namespace Sample

def absent : List Exchange :=
  [⟨.inherit, Environment.empty⟩,
    ⟨.spawn (Deployment.standard.command
        (Deployment.standard.overlay.apply .empty (some Shared.Sample.nextDay))),
      (.error .notFound : Except Error Pid)⟩]

/-- The answer to whoever asks for a program that is not there. -/
def absentResponse : Http.Response :=
  restartResponse (.error (.launch Deployment.standard.resolvedProgram.text .notFound))

theorem serves_absent :
    serve supervised Conduct.silent Server.Sample.request ⟨.standard, none, 0⟩ absent (some absentResponse)
      ⟨.standard, none, 0⟩ := by
  have hoperation : (Demand.ofRequest Server.Sample.request).operation? =
      some (.restartWith (some "+1d")) := by
    rw [Server.Sample.demand_request]
    rfl
  refine (serve_of_operation hoperation).mpr ⟨_, .goOn (.goOn .finish), ?_⟩
  rw [Server.Sample.demand_request]
  rfl

def lacking : Http.Request := requestOfLine "POST /set_time \x7b\x7d"

end Sample

theorem set_time_answered_absent :
    AsksForTime Server.Sample.request ∧
      readBody Server.Sample.request = .ok ⟨some Shared.Sample.nextDay.text⟩ ∧
      (Sample.absentResponse.status = 200 ∨ Sample.absentResponse.status = 500) ∧
      AsksForTime Sample.lacking ∧ readBody Sample.lacking = .ok ⟨none⟩ ∧
      (∀ (m : Type → Type) [Monad m] (control : TimeControl m) (log : Log.Entry → m Unit),
        serve control log Sample.lacking = pure (refusal 400 "No fake time provided")) := by
  have hasks : AsksForTime Server.Sample.request := by decide +kernel
  have hbody : readBody Server.Sample.request = .ok ⟨some Shared.Sample.nextDay.text⟩ := by
    decide +kernel
  have hlacks : AsksForTime Sample.lacking := by decide +kernel
  have hlacking : readBody Sample.lacking = .ok ⟨none⟩ := by decide +kernel
  have hempty : Warden.Reachable { deployment := .standard } :=
    ⟨ProcessTable, ProcessTable.host, .standard, _, _, .begin, rfl, rfl⟩
  refine ⟨hasks, hbody, ?_, hlacks, hlacking, fun m _ control log => ?_⟩
  · exact ((set_time_answered hasks).2.2 _ _ _ _ hempty Sample.serves_absent).2 _ hbody _ rfl
  · exact ((set_time_answered hlacks).1 m control log).missing _ hlacking (Or.inl rfl)

end Service

end ClockWarden
