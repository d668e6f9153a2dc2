import ClockWarden.Proofs.Supervisor.Stopping
import ClockWarden.Supervisor.Operation

/-! What the stages of an operation preserve, whatever the host answers: the handle at each stage says
as much as that stage needs (`Stage.Sound`), and the supervisor that an operation leaves does not keep
a process that is marked as retired (`Warden.Sound`). -/

namespace ClockWarden.Supervisor

open Host

/-- A process that is still managed is not marked as retired. -/
def Warden.Sound (s : Warden) : Prop :=
  ∀ handle, s.current = some handle → handle.phase.isRetired = false

namespace Handle

theorem phase_cases (h : Handle) (hretired : h.phase.isRetired = false) :
    h.phase = .unreaped ∨ ∃ status, h.phase = .reaped status := by
  cases hphase : h.phase with
  | unreaped => exact Or.inl rfl
  | reaped status => exact Or.inr ⟨status, rfl⟩
  | retired status =>
      rw [hphase] at hretired
      cases hretired

/-- A process that is found to have ended is known to have been reaped. -/
theorem inspected_of_unreaped {h : Handle} (hphase : h.phase = .unreaped) (status : ExitStatus) :
    h.inspected (.ok (some status)) = ({ h with phase := .reaped status }, false) := by
  simp only [inspected, reap_of_unreaped hphase]

end Handle

namespace Discard

/-- What the handle says while it is let go of. -/
def Sound (d : Discard) : Prop :=
  match d.stage with
  | .polling | .releasing => d.handle.phase = .unreaped
  | .killing => d.handle.phase.isRetired = false

theorem Sound.not_retired {d : Discard} (h : d.Sound) : d.handle.phase.isRetired = false := by
  obtain ⟨handle, stage⟩ := d
  cases stage <;> first | exact h | exact congrArg Phase.isRetired h

theorem start_sound {handle : Handle} (h : handle.phase.isRetired = false) :
    (start handle).Leads (fun d => d.Sound ∧ d.handle = handle ∧ d.stage ≠ .releasing)
      (fun _ => False) := by
  unfold start
  rcases handle.phase_cases h with hphase | ⟨status, hphase⟩ <;> rw [hphase]
  · exact ⟨hphase, rfl, by simp⟩
  · exact ⟨h, rfl, by simp⟩

/-- A process that is known to have ended is let go of by a killing signal to its group. -/
theorem stage_of_reaped {d : Discard} (h : d.Sound) {status : ExitStatus}
    (hphase : d.handle.phase = .reaped status) : d.stage = .killing := by
  obtain ⟨handle, stage⟩ := d
  cases stage with
  | killing => rfl
  | _ =>
      rw [show handle.phase = _ from h] at hphase
      cases hphase

theorem killed_of_reaped {handle : Handle} {status : ExitStatus}
    (hphase : handle.phase = .reaped status) : killed handle = .finish [] () := by
  simp only [killed, hphase, Phase.status?]

theorem call_not_spawn (d : Discard) : ¬d.call.IsSpawn := by
  obtain ⟨handle, stage⟩ := d
  rintro ⟨command, h⟩
  cases stage <;> cases h

theorem not_retired_reap {handle : Handle} (h : handle.phase.isRetired = false) (status : ExitStatus) :
    (handle.reap status).phase.isRetired = false := by
  unfold Handle.reap
  split
  · rfl
  · exact h

theorem receive_sound {d : Discard} (h : d.Sound) (answer : d.call.Answer) :
    (d.receive answer).Leads (fun next => next.Sound ∧ next.handle = d.handle.learn ⟨d.call, answer⟩)
      (fun _ => True) := by
  obtain ⟨handle, stage⟩ := d
  cases stage with
  | polling =>
      have hretired : handle.phase.isRetired = false := h.not_retired
      rcases answer with cause | _ | status
      · exact ⟨hretired, rfl⟩
      · exact ⟨hretired, rfl⟩
      · exact ⟨not_retired_reap hretired status, rfl⟩
  | killing =>
      change (killed handle).Leads _ _
      unfold killed
      cases hphase : handle.phase with
      | unreaped => exact ⟨hphase, rfl⟩
      | reaped status => exact trivial
      | retired status => exact trivial
  | releasing => exact trivial

end Discard

namespace Operation

/-- What the handle says at each stage. -/
def Stage.Sound : Stage → Prop
  | .stopping _ termination => termination.Sound
  | .polling handle => handle.phase = .unreaped
  | .discarding discard => discard.Sound
  | .inheriting _ | .launching _ => True

/-- What a turn of an operation leads to is sound, and belongs to the same supervisor. -/
def Keeps (u : Underway) (turn : Turn Underway Result) : Prop :=
  turn.Leads
    (fun next => next.stage.Sound ∧ next.deployment = u.deployment ∧ next.launches = u.launches)
    (fun result => result.1.Sound ∧ result.1.deployment = u.deployment)

namespace Underway

theorem keeps_vacated (u : Underway) (aim : Aim) : Keeps u (u.vacated aim) := by
  cases aim with
  | launch time => exact ⟨trivial, rfl, rfl⟩
  | stop => exact ⟨fun handle h => (by cases h), rfl⟩

theorem keeps_retired (u : Underway) (aim : Aim) {handle : Handle} {result : Termination.Result}
    (h : Termination.Leaves handle result) : Keeps u (u.retired aim result) := by
  obtain ⟨left, outcome⟩ := result
  cases outcome with
  | stopped status => exact (Turn.leads_after _ _).mpr (keeps_vacated u aim)
  | failed failure => exact ⟨fun kept hkept => (by cases hkept; exact h.2.1), rfl⟩
  | overflowed => exact ⟨fun kept hkept => (by cases hkept; exact h.2), rfl⟩

theorem keeps_launched (u : Underway) {result : Launch.Result}
    (h : ∀ handle, result = .ok handle → handle.phase.isRetired = false) :
    Keeps u (u.launched result) := by
  cases result with
  | error failure => exact ⟨fun kept hkept => (by cases hkept), rfl⟩
  | ok handle => exact ⟨fun kept hkept => (by cases hkept; exact h handle rfl), rfl⟩

theorem keeps_inspected (u : Underway) {handle : Handle} (h : handle.phase.isRetired = false)
    (runs : Bool) : Keeps u (u.inspected (handle, runs)) := by
  cases runs with
  | true => exact ⟨fun kept hkept => (by cases hkept; exact h), rfl⟩
  | false =>
      refine (Turn.leads_after _ _).mpr ((Turn.leads_within _).mpr ?_)
      exact (Discard.start_sound h).imp (fun d hd => ⟨hd.1, rfl, rfl⟩) (fun _ hfalse => hfalse.elim)

theorem keeps_receive {u : Underway} (h : u.stage.Sound) (answer : u.call.Answer) :
    Keeps u (u.receive answer) := by
  obtain ⟨deployment, launches, stage⟩ := u
  cases stage with
  | stopping aim termination =>
      refine (Turn.leads_within _).mpr ((Termination.receive_leads h answer).imp ?_ ?_)
      · exact fun next hnext => ⟨hnext.1, rfl, rfl⟩
      · exact fun result hends => keeps_retired _ aim (hends.leaves h)
  | inheriting time => exact ⟨trivial, rfl, rfl⟩
  | launching launch =>
      obtain ⟨program, environment, time, stage⟩ := launch
      refine (Turn.leads_within _).mpr ?_
      cases stage with
      | spawning =>
          rcases answer with cause | pid
          · exact keeps_launched _ (fun handle (hok : Except.error _ = _) => (by cases hok))
          · exact ⟨trivial, rfl, rfl⟩
      | stamping pid =>
          exact keeps_launched _ (fun handle (hok : Except.ok _ = _) => (by cases hok; rfl))
  | polling handle =>
      have hretired : handle.phase.isRetired = false := congrArg Phase.isRetired h
      refine (Turn.leads_after [] (inspected _ (handle.inspected answer))).mpr ?_
      rcases answer with cause | _ | status
      · exact keeps_inspected _ hretired false
      · exact keeps_inspected _ hretired true
      · exact keeps_inspected _ (Discard.not_retired_reap hretired status) false
  | discarding discard =>
      refine (Turn.leads_within _).mpr ((Discard.receive_sound h answer).imp ?_ ?_)
      · exact fun next hnext => ⟨hnext.1, rfl, rfl⟩
      · exact fun _ _ => ⟨fun kept hkept => (by cases hkept), rfl⟩

/-- What is left of a sound operation that is given up is sound. -/
theorem sound_interrupted {u : Underway} (h : u.stage.Sound) : u.interrupted.Sound := by
  obtain ⟨deployment, launches, stage⟩ := u
  intro handle hcurrent
  cases stage with
  | stopping aim termination =>
      cases hcurrent
      exact Termination.Sound.not_retired h
  | polling handle =>
      cases hcurrent
      exact congrArg Phase.isRetired h
  | _ => cases hcurrent

end Underway

/-- The first turn of an operation on a sound supervisor is sound. -/
theorem Task.start_sound {s : Warden} (h : s.Sound) (task : Task) :
    (task.start s).Leads
      (fun next => next.stage.Sound ∧ next.deployment = s.deployment ∧ next.launches = s.launches)
      (fun result => result.1.Sound ∧ result.1.deployment = s.deployment) := by
  cases task with
  | pursue aim =>
      unfold Task.start
      cases hcurrent : s.current with
      | none =>
          cases aim with
          | launch time => exact ⟨trivial, rfl, rfl⟩
          | stop => exact ⟨h, rfl⟩
      | some handle => exact ⟨h handle hcurrent, rfl, rfl⟩
  | tell =>
      unfold Task.start
      cases hcurrent : s.current with
      | none => exact ⟨h, rfl⟩
      | some handle =>
          have hretired := h handle hcurrent
          refine (Turn.leads_within _).mpr ?_
          unfold Inspection.start
          rcases handle.phase_cases hretired with hphase | ⟨status, hphase⟩ <;> rw [hphase]
          · exact ⟨hphase, rfl, rfl⟩
          · exact Underway.keeps_inspected ⟨s.deployment, s.launches, .polling handle⟩ hretired false

/-- The fake time, or the lack of one, that an operation asks for. -/
def Asks : Operation → Option FakeTime → Prop
  | .launchInitial, time => time = none
  | .restartWith request, time => ∃ t, time = some t ∧ request = some t.text
  | _, _ => False

theorem task_of_asks {operation : Operation} {time : Option FakeTime} (h : operation.Asks time) :
    operation.task = .ok (.pursue (.launch time)) := by
  cases operation with
  | launchInitial =>
      rw [show time = none from h]
      rfl
  | restartWith request =>
      obtain ⟨t, rfl, rfl⟩ := h
      simp only [task, FakeTime.ofRequest, FakeTime.ofText, dif_neg t.nonempty, dif_neg t.noNul]
      rfl
  | _ => exact h.elim

theorem asks_of_task {operation : Operation} {time : Option FakeTime}
    (h : operation.task = .ok (.pursue (.launch time))) : operation.Asks time := by
  cases operation with
  | launchInitial =>
      cases h
      rfl
  | restartWith request =>
      cases request with
      | none => cases h
      | some text =>
          simp only [task, FakeTime.ofRequest, FakeTime.ofText] at h
          split at h
          · cases h
          · split at h
            · cases h
            · cases h
              exact ⟨_, rfl, rfl⟩
  | _ => cases h

theorem eq_tellStatus_of_task {operation : Operation} (h : operation.task = .ok .tell) :
    operation = .tellStatus := by
  cases operation with
  | tellStatus => rfl
  | restartWith request =>
      cases hrequest : FakeTime.ofRequest request <;> simp only [task, hrequest] at h <;> cases h
  | _ => cases h

theorem eq_shutdown_of_task {operation : Operation} (h : operation.task = .ok (.pursue .stop)) :
    operation = .shutdown := by
  cases operation with
  | shutdown => rfl
  | restartWith request =>
      cases hrequest : FakeTime.ofRequest request <;> simp only [task, hrequest] at h <;> cases h
  | _ => cases h

theorem unusable_of_task {operation : Operation} {refusal : FakeTime.Refusal}
    (h : operation.task = .error refusal) :
    ∃ request, operation = .restartWith request ∧ ∀ time, ¬operation.Asks time := by
  have hunusable (time : Option FakeTime) : ¬operation.Asks time := by
    intro hasks
    rw [task_of_asks hasks] at h
    cases h
  cases operation with
  | restartWith request => exact ⟨request, rfl, hunusable⟩
  | _ => cases h

/-- An answer of an operation that could not stop the process, or broke off before it tried. -/
def FailsToStop (operation : Operation) : Reply → Prop
  | .launched (.error failure) => (∃ time, operation.Asks time) ∧ failure.IsStopping
  | .stopped (.error failure) => operation = .shutdown ∧ failure.IsStopping
  | .overflowed => (∃ time, operation.Asks time) ∨ operation = .shutdown
  | _ => False

end Operation

end ClockWarden.Supervisor
