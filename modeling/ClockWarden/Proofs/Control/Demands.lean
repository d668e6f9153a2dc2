import ClockWarden.Proofs.Control.Bodies

/-! What requests ask for. Only a request to set the fake time asks for a restart, and it asks for the one
that its body spells (`timeDemand_of_restart`, `eq_of_spells`); if it is answered at once, or the restart
fails, it is not told that it succeeded (`status_ne_of_answered`, `ok_of_restartResponse`). -/

namespace ClockWarden.Control

open Http

/-- A request to set the fake time. -/
def AsksForTime (request : Request) : Prop := request.method = "POST" ∧ request.path = timePath

instance (request : Request) : Decidable (AsksForTime request) := inferInstanceAs (Decidable (_ ∧ _))

/-- A request for the status, with its body. -/
def AsksForStatus (request : Request) : Prop := request.method = "GET" ∧ request.path = statusPath

variable {request : Request} {response : Response} {time : FakeTime}

theorem timePath_ne_statusPath : timePath ≠ statusPath := by decide

theorem AsksForTime.demand (h : AsksForTime request) :
    Demand.ofRequest request = timeDemand request := by
  simp only [Demand.ofRequest, if_pos h.2, if_pos h.1]

theorem AsksForStatus.demand (h : AsksForStatus request) :
    Demand.ofRequest request = .status false := by
  have hpath : request.path ≠ timePath := by
    rw [h.2]
    exact timePath_ne_statusPath.symm
  simp only [Demand.ofRequest, if_neg hpath, if_pos (Or.inl h.2), if_pos h.2, h.1]
  rfl

theorem timeDemand_ne_status (isHead : Bool) : timeDemand request ≠ .status isHead := by
  unfold timeDemand
  split
  · simp
  · split <;> simp

/-- Only a request to set the fake time asks for a restart. -/
theorem timeDemand_of_restart (h : Demand.ofRequest request = .restart time) :
    AsksForTime request ∧ timeDemand request = .restart time := by
  unfold Demand.ofRequest at h
  simp only at h
  split at h
  · rename_i hpath
    split at h
    · rename_i hmethod
      exact ⟨⟨hmethod, hpath⟩, h⟩
    · cases h
  · split at h
    · split at h
      · split at h <;> cases h
      · cases h
    · cases h

/-- A usable fake time is the one that was given. -/
theorem eq_of_ofRequest {given : Option String} (h : FakeTime.ofRequest given = .ok time) :
    given = some time.text := by
  cases given with
  | none => cases h
  | some text =>
      unfold FakeTime.ofRequest FakeTime.ofText at h
      simp only at h
      split at h
      · cases h
      · split at h
        · cases h
        · cases h
          rfl

theorem readBody_of_restart (h : timeDemand request = .restart time) :
    readBody request = .ok ⟨some time.text⟩ := by
  unfold timeDemand at h
  split at h
  · cases h
  · rename_i body hbody
    split at h
    · cases h
    · rename_i hgiven
      cases h
      rw [hbody, ← eq_of_ofRequest hgiven]

/-- A body that is refused is not answered as if it were taken. -/
theorem status_of_readBody {failure : Failure} (h : readBody request = .error failure) :
    failure.status ≠ 200 := by
  unfold readBody at h
  split at h
  · cases h
    decide
  · split at h
    · cases h
      decide
    · split at h
      · cases h
      · simp only at h
        split at h <;> cases h <;> simp [Failure.status]

/-- A failure of the supervisor is not answered as a success. -/
theorem status_supervisor (failure : Supervisor.Failure) :
    (Failure.supervisor failure).response.status ≠ 200 := by
  change (if failure.isCallersFault then 400 else 500) ≠ 200
  split <;> decide

theorem status_ne_of_answered (hasks : AsksForTime request)
    (h : Demand.ofRequest request = .answered response) : response.status ≠ 200 := by
  rw [hasks.demand, timeDemand] at h
  split at h
  · rename_i failure hbody
    cases h
    exact status_of_readBody hbody
  · split at h
    · cases h
      exact status_supervisor _
    · cases h

/-- A restart that is answered with success has launched a process. -/
theorem ok_of_restartResponse {result : Except Supervisor.Failure Supervisor.Confirmation}
    (h : (restartResponse result).status = 200) : ∃ confirmation, result = .ok confirmation := by
  cases result with
  | ok confirmation => exact ⟨confirmation, rfl⟩
  | error failure => exact absurd h (status_supervisor failure)

/-- A body that spells a fake time asks for no other one. -/
theorem eq_of_spells {text : String} {body : TimeRequest} (hspells : TimeRequest.Spells text request.body)
    (h : readBody request = .ok body) : body = ⟨some text⟩ := by
  obtain ⟨rest, hread⟩ := TimeRequest.read_of_spells hspells
  unfold readBody at h
  rw [hread] at h
  split at h
  · cases h
  · split at h
    · cases h
    · cases h
      rfl

end ClockWarden.Control
