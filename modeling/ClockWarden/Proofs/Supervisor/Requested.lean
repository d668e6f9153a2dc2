import ClockWarden.Proofs.Supervisor.Inheritance
import ClockWarden.Proofs.Supervisor.Outcome

/-! Where the fake times of a supervisor come from. Whatever the host answers, a process that is managed bears
the fake time that some call has asked for (`Reachable.requested_of_handle`), and a launch is confirmed with the
one that the call itself has asked for (`Reachable.asks_of_confirmed`). -/

namespace ClockWarden.Supervisor

open Host

namespace Operation

/-- An answer that is a status. -/
def Reply.IsStatus : Reply → Prop
  | .told _ => True
  | _ => False

/-- The stages in which a status is told. -/
def Stage.Looks : Stage → Prop
  | .polling _ | .discarding _ => True
  | _ => False

/-- A turn that leads to nothing but a status. -/
def LeadsToStatus (turn : Turn Underway Result) : Prop :=
  turn.Leads (fun next => next.stage.Looks) (fun result => result.2.IsStatus)

variable {u : Underway}

theorem leadsToStatus_discard (u : Underway) (turn : Turn Discard Unit) :
    LeadsToStatus (turn.within (fun d => { u with stage := .discarding d }) fun _ => u.toldEmpty) := by
  cases turn <;> trivial

theorem leadsToStatus_inspected (u : Underway) (found : Handle × Bool) :
    LeadsToStatus (u.inspected found) := by
  obtain ⟨handle, runs⟩ := found
  cases runs with
  | true => trivial
  | false => exact (Turn.leads_after _ _).mpr (leadsToStatus_discard u _)

theorem Underway.leadsToStatus_receive (h : u.stage.Looks) (answer : u.call.Answer) :
    LeadsToStatus (u.receive answer) := by
  obtain ⟨deployment, launches, stage⟩ := u
  cases stage with
  | polling handle => exact (Turn.leads_after _ _).mpr (leadsToStatus_inspected _ _)
  | discarding discard => exact leadsToStatus_discard _ _
  | _ => exact h.elim

theorem leadsToStatus_start (s : Warden) : LeadsToStatus (Task.tell.start s) := by
  unfold Task.start
  cases s.current with
  | none => trivial
  | some handle =>
      refine (Turn.leads_within (Inspection.start handle)).mpr ?_
      cases Inspection.start handle with
      | goOn entries kept => trivial
      | finish entries found => exact leadsToStatus_inspected _ found

/-- Whoever asks for the status is told it. -/
theorem isStatus_of_runs {s : Warden} {exchanges : List Exchange} {result : Result}
    (h : Underway.machine.Runs (Task.tell.start s) exchanges result) : result.2.IsStatus := by
  have hkeeps (u : Underway) (answer : u.call.Answer) (hlooks : u.stage.Looks) (_ : True) :
      LeadsToStatus (u.receive answer) := Underway.leadsToStatus_receive hlooks answer
  exact h.leads hkeeps (fun _ _ => trivial) (leadsToStatus_start s)

end Operation

namespace Shared

variable {World : Type} {behaviour : Behaviour World} {deployment : Deployment} {s : Shared World}

/-- A fake time that a call has asked for. -/
def Requested (history : List (Event World)) (time : FakeTime) : Prop :=
  ∃ caller, .called caller (.restartWith (some time.text)) ∈ history

theorem eq_restartWith_of_asks {operation : Operation} {time : FakeTime}
    (h : operation.Asks (some time)) : operation = .restartWith (some time.text) := by
  cases operation with
  | restartWith request =>
      obtain ⟨_, ⟨⟩, rfl⟩ := h
      rfl
  | launchInitial => cases h
  | _ => exact h.elim

theorem Reachable.requested_of_handle (h : Reachable behaviour deployment s) {handle : Handle}
    (hhandle : s.seat.handle? = some handle) {time : FakeTime} (htime : handle.fakeTime = some time) :
    Requested s.history time := by
  obtain ⟨caller, operation, _, hcalled, hasks, -⟩ := h.furnished.seat.of_handle? hhandle
  rw [htime] at hasks
  rw [eq_restartWith_of_asks hasks] at hcalled
  exact ⟨caller, hcalled⟩

/-- A launch that is confirmed is the one that the call has asked for. -/
theorem Reachable.asks_of_confirmed (h : Reachable behaviour deployment s) {completion : Completion World}
    (hmem : completion ∈ completions s.history) {confirmation : Confirmation}
    (hreply : completion.reply = .launched (.ok confirmation)) :
    completion.operation.Asks confirmation.fakeTime := by
  obtain ⟨before, acquired, after, hbefore, hcarried⟩ := h.carried_of_completion completion hmem
  rw [hreply] at hcarried
  by_cases hstatus : completion.operation = .tellStatus
  · rw [hstatus] at hcarried
    generalize exchangesOf s.history completion.caller = exchanges at hcarried
    cases hcarried with
    | acquired asks run =>
        cases asks
        exact (Operation.isStatus_of_runs run).elim
  · obtain ⟨-, ⟨handle, -, -, htime, hasks, -⟩, -⟩ :=
      Operation.tells_of_carried hbefore.sound hstatus hcarried
    rwa [htime] at hasks

/-- A call that gives no usable fake time is refused. -/
theorem Reachable.refused_of_task (h : Reachable behaviour deployment s) {completion : Completion World}
    (hmem : completion ∈ completions s.history) {refusal : FakeTime.Refusal}
    (hrefused : completion.operation.task = .error refusal) : completion.reply = .refused refusal := by
  obtain ⟨before, acquired, after, -, hcarried⟩ := h.carried_of_completion completion hmem
  generalize exchangesOf s.history completion.caller = exchanges at hcarried
  generalize completion.reply = reply at hcarried
  cases hcarried with
  | refused refused =>
      rw [hrefused] at refused
      cases refused
      rfl
  | acquired asks run =>
      rw [hrefused] at asks
      cases asks

end Shared

end ClockWarden.Supervisor
