import ClockWarden.Proofs.Supervisor.Isolation
import ClockWarden.Proofs.Supervisor.Retiring
import ClockWarden.Proofs.Supervisor.SingleInstance

/-! The answer of an operation fixes what it has done. A run on an acquired supervisor splits into the
attempt to stop the old process and the launch of the new one, and each answer belongs to one way in
which they end; so whatever the host answers, the answer tells what the supervisor holds afterwards,
how many launches it counts, and which calls were made (`outcome_fixes_state`). -/

namespace ClockWarden.Supervisor

open Host

namespace Warden

/-- The process of a supervisor has been stopped and its group is gone; without a process nothing is to
be done. -/
def Vacates (s : Warden) (exchanges : List Exchange) : Prop :=
  match s.current with
  | none => exchanges = []
  | some handle =>
    ∃ status,
      Termination.machine.Runs (Termination.start handle s.deployment.stopTimeout) exchanges
        (handle.retire status, .stopped status) ∧
      Termination.Clears handle exchanges status

variable {s : Warden} {exchanges : List Exchange}

theorem vacates_of_attempt (hs : s.Sound) {handle left : Handle} (hcurrent : s.current = some handle)
    {status : ExitStatus}
    (h : Termination.machine.Runs (Termination.start handle s.deployment.stopTimeout) exchanges
      (left, .stopped status)) : s.Vacates exchanges := by
  have hsound : Termination.Sound ⟨handle, s.deployment.stopTimeout, .beginning⟩ := hs handle hcurrent
  obtain ⟨rfl, hclears⟩ := Termination.clears_of_runs hsound h
  simp only [Vacates, hcurrent]
  exact ⟨status, h, hclears⟩

theorem Vacates.not_spawn (hs : s.Sound) (h : s.Vacates exchanges) :
    ∀ exchange ∈ exchanges, ¬exchange.call.IsSpawn := by
  unfold Vacates at h
  cases hcurrent : s.current with
  | none =>
      simp only [hcurrent] at h
      simp [h]
  | some handle =>
      simp only [hcurrent] at h
      obtain ⟨status, hrun, -⟩ := h
      exact (Termination.leaves_of_runs hrun (Termination.start_leads (hs handle hcurrent) _)).2

end Warden

namespace Operation

/-- The old process has been stopped, and the environment has been read; nothing has been started. -/
def Prepares (s : Warden) (exchanges : List Exchange) : Prop :=
  ∃ stop environment, exchanges = stop ++ [⟨.inherit, environment⟩] ∧ s.Vacates stop ∧
    ∀ exchange ∈ exchanges, ¬exchange.call.IsSpawn

/-- The old process is still managed, nothing has been started, and nothing was counted. -/
def Holds (s : Warden) (exchanges : List Exchange) (s' : Warden) : Prop :=
  (∃ old kept, s.current = some old ∧ s'.current = some kept ∧ kept.Same old ∧
    kept.phase.isRetired = false) ∧
  s'.launches = s.launches ∧ ∀ exchange ∈ exchanges, ¬exchange.call.IsSpawn

/-- What the answer of an operation tells about the calls that it has made and the supervisor that it
leaves. -/
def Tells (operation : Operation) (s : Warden) (acquired : Bool) (exchanges : List Exchange)
    (s' : Warden) : Reply → Prop
  | .launched (.error (.badRequest _)) =>
    (∀ time, ¬operation.Asks time) ∧ acquired = false ∧ exchanges = [] ∧ s' = s
  | .launched (.error (.launch _ cause)) =>
    (∃ before command, exchanges = before ++ [⟨.spawn command, .error cause⟩] ∧ Prepares s before) ∧
    s'.current = none ∧ s'.launches = s.launches
  | .launched (.error (.termination _ _)) | .launched (.error (.host _)) => Holds s exchanges s'
  | .launched (.ok confirmation) =>
    (∃ before command now, Prepares s before ∧
      exchanges = before ++ [⟨.spawn command, .ok confirmation.pid⟩, ⟨.readDate, now⟩]) ∧
    (∃ handle, s'.current = some handle ∧ handle.pid = confirmation.pid ∧
      handle.fakeTime = confirmation.fakeTime ∧ operation.Asks handle.fakeTime ∧
      handle.phase = .unreaped) ∧
    s'.launches = s.launches + 1
  | .stopped (.error failure) => failure.IsStopping ∧ Holds s exchanges s'
  | .stopped (.ok ()) => s.Vacates exchanges ∧ s'.current = none ∧ s'.launches = s.launches
  | .overflowed => Holds s exchanges s'
  | .told _ => False

theorem carries_termination (u : Underway) (aim : Aim) :
    Underway.machine.Carries Termination.machine (fun t => { u with stage := .stopping aim t })
      (u.retired aim) := fun _ answer => ⟨answer, rfl, rfl⟩

/-- A run that stops a process is an attempt to stop it, and then what its outcome calls for. -/
theorem runs_stopping (u : Underway) {aim : Aim} {handle : Handle} {grace : Duration}
    {exchanges : List Exchange} {result : Result}
    (h : Underway.machine.Runs (.goOn [] { u with stage := .stopping aim { handle, grace } })
      exchanges result) :
    ∃ before ended after, exchanges = before ++ after ∧
      Termination.machine.Runs (Termination.start handle grace) before ended ∧
      Underway.machine.Runs (u.retired aim ended) after result := by
  have hwithin : Underway.machine.Runs ((Termination.start handle grace).within
      (fun t => { u with stage := .stopping aim t }) (u.retired aim)) exchanges result := h
  exact hwithin.of_within (carries_termination u aim)

/-- A run that launches a process reads the environment, asks for the process, and reads the date if
there is one. -/
theorem runs_inheriting {deployment : Deployment} {launches : UInt64} {time : Option FakeTime}
    {entries : List Log.Entry} {exchanges : List Exchange} {result : Result}
    (h : Underway.machine.Runs (.goOn entries ⟨deployment, launches, .inheriting time⟩) exchanges
      result) :
    ∃ environment command,
      (∃ cause, exchanges = [⟨.inherit, environment⟩, ⟨.spawn command, .error cause⟩] ∧
        result = (⟨deployment, none, launches⟩,
          .launched (.error (.launch deployment.resolvedProgram.text cause)))) ∨
      ∃ pid now handle,
        exchanges = [⟨.inherit, environment⟩, ⟨.spawn command, .ok pid⟩, ⟨.readDate, now⟩] ∧
        handle.pid = pid ∧ handle.fakeTime = time ∧ handle.phase = .unreaped ∧
        result = (⟨deployment, some handle, launches + 1⟩, .launched (.ok ⟨time, pid⟩)) := by
  cases h with
  | @goOn _ _ environment exchanges result h =>
      cases h with
      | @goOn _ _ answer exchanges result h =>
          refine ⟨environment, deployment.command (deployment.overlay.apply environment time), ?_⟩
          rcases answer with cause | pid
          · cases h
            exact Or.inl ⟨cause, rfl, rfl⟩
          · cases h with
            | @goOn _ _ now exchanges result h =>
                cases h
                exact Or.inr ⟨pid, now, _, rfl, rfl, rfl, rfl, rfl⟩

/-- What comes of a launch once the old process is out of the way. -/
theorem tells_inheriting {s : Warden} (hs : s.Sound) {operation : Operation} {time : Option FakeTime}
    (hasks : operation.Asks time) {stop after : List Exchange} {result : Result}
    (hstop : s.Vacates stop) {entries : List Log.Entry}
    (h : Underway.machine.Runs (.goOn entries ⟨s.deployment, s.launches, .inheriting time⟩) after
      result) :
    Tells operation s true (stop ++ after) result.1 result.2 := by
  have hprepares (environment : Environment) : Prepares s (stop ++ [⟨.inherit, environment⟩]) := by
    refine ⟨stop, environment, rfl, hstop, ?_⟩
    intro exchange hmem
    rcases List.mem_append.mp hmem with hmem | hmem
    · exact hstop.not_spawn hs exchange hmem
    · obtain rfl := List.mem_singleton.mp hmem
      rintro ⟨command, hcall⟩
      cases hcall
  obtain ⟨environment, command, ⟨cause, rfl, rfl⟩ | ⟨pid, now, handle, rfl, hpid, htime, hphase, rfl⟩⟩ :=
    runs_inheriting h
  · exact ⟨⟨_, command, by simp, hprepares environment⟩, rfl, rfl⟩
  · have hlaunched : operation.Asks handle.fakeTime := by
      rw [htime]
      exact hasks
    exact ⟨⟨_, command, now, hprepares environment, by simp⟩,
      ⟨handle, rfl, hpid, htime, hlaunched, hphase⟩, rfl⟩

/-- What comes of stopping the old process, and of what follows. -/
theorem tells_stopping {s : Warden} (hs : s.Sound) {operation : Operation} {aim : Aim}
    (hasks : ∀ time, aim = .launch time → operation.Asks time) {handle : Handle}
    (hcurrent : s.current = some handle) {exchanges : List Exchange} {result : Result}
    (h : Underway.machine.Runs
      (.goOn [] ⟨s.deployment, s.launches, .stopping aim { handle, grace := s.deployment.stopTimeout }⟩)
      exchanges result) :
    Tells operation s true exchanges result.1 result.2 := by
  obtain ⟨before, ⟨left, outcome⟩, after, rfl, hattempt, hrest⟩ :=
    runs_stopping ⟨s.deployment, s.launches, .polling handle⟩ h
  have hstart := Termination.start_leads (hs handle hcurrent) s.deployment.stopTimeout
  obtain ⟨hleaves, hspawn⟩ := Termination.leaves_of_runs hattempt hstart
  cases outcome with
  | stopped status =>
      have hstop : s.Vacates before := Warden.vacates_of_attempt hs hcurrent hattempt
      have hvacated := Machine.Runs.of_after _ hrest
      cases aim with
      | launch time => exact tells_inheriting hs (hasks time rfl) hstop hvacated
      | stop =>
          cases hvacated
          rw [List.append_nil]
          exact ⟨hstop, rfl, rfl⟩
  | failed failure =>
      cases hrest
      rw [List.append_nil]
      have hholds : Holds s before ⟨s.deployment, some left, s.launches⟩ :=
        ⟨⟨handle, left, hcurrent, rfl, hleaves.1, hleaves.2.1⟩, rfl, hspawn⟩
      have hfailure : failure.IsStopping := hleaves.2.2
      cases aim with
      | launch time => cases failure <;> first | exact hholds | exact hfailure.elim
      | stop => exact ⟨hfailure, hholds⟩
  | overflowed =>
      cases hrest
      rw [List.append_nil]
      exact ⟨⟨handle, left, hcurrent, rfl, hleaves.1, hleaves.2⟩, rfl, hspawn⟩

theorem tells_of_carried {s : Warden} (hs : s.Sound) {operation : Operation}
    (hoperation : operation ≠ .tellStatus) {acquired : Bool} {exchanges : List Exchange}
    {result : Result} (h : operation.Carried s acquired exchanges result) :
    Tells operation s acquired exchanges result.1 result.2 := by
  cases h with
  | refused refused =>
      obtain ⟨-, -, hunusable⟩ := unusable_of_task refused
      exact ⟨hunusable, rfl, rfl, rfl⟩
  | @acquired task exchanges result asks run =>
      cases task with
      | tell => exact absurd (eq_tellStatus_of_task asks) hoperation
      | pursue aim =>
          have hasks (time : Option FakeTime) (haim : aim = .launch time) : operation.Asks time := by
            rw [haim] at asks
            exact asks_of_task asks
          unfold Task.start at run
          cases hcurrent : s.current with
          | some handle =>
              simp only [hcurrent] at run
              exact tells_stopping hs hasks hcurrent run
          | none =>
              have hstop : s.Vacates [] := by simp only [Warden.Vacates, hcurrent]
              simp only [hcurrent] at run
              cases aim with
              | launch time => exact tells_inheriting hs (hasks time rfl) hstop run
              | stop =>
                  cases run
                  exact ⟨hstop, hcurrent, rfl⟩

theorem Holds.managed {s s' : Warden} {exchanges : List Exchange} (h : Holds s exchanges s') :
    s.current ≠ none := by
  obtain ⟨⟨old, kept, hold, -⟩, -⟩ := h
  simp [hold]

/-- Where there is nothing to be stopped, nothing fails to be stopped. -/
theorem Tells.not_stopping {operation : Operation} {s s' : Warden} {acquired : Bool}
    {exchanges : List Exchange} {reply : Reply} (h : Tells operation s acquired exchanges s' reply)
    (hempty : s.current = none) {failure : Failure} (hfailure : failure.IsStopping) :
    reply ≠ .launched (.error failure) ∧ reply ≠ .stopped (.error failure) := by
  refine ⟨?_, ?_⟩ <;> rintro rfl
  · cases failure with
    | termination pid reason => exact Holds.managed h hempty
    | host cause => exact Holds.managed h hempty
    | _ => exact hfailure
  · exact h.2.managed hempty

/-- In every run each completed call has been carried out by itself; and wherever a run leaves the
supervisor vacant, the answer of an operation that launches or stops a process fixes what it has done,
whatever the host answers. -/
theorem outcome_fixes_state {World : Type} {behaviour : Behaviour World} {deployment : Deployment}
    {x : Shared World} (hx : Shared.Reachable behaviour deployment x) :
    (∀ completion ∈ completions x.history, completion.Carried x.history) ∧
      ∀ (s : Warden) (operation : Operation) (acquired : Bool) (exchanges : List Exchange)
        (s' : Warden) (reply : Reply), x.seat = .vacant s → operation ≠ .tellStatus →
        operation.Carried s acquired exchanges (s', reply) →
        Tells operation s acquired exchanges s' reply ∧
          (s.current = none → ∀ failure : Failure, failure.IsStopping →
            reply ≠ .launched (.error failure) ∧ reply ≠ .stopped (.error failure)) := by
  refine ⟨hx.carried_of_completion, ?_⟩
  intro s operation acquired exchanges s' reply hseat hoperation hcarried
  have hsound := hx.sound
  rw [hseat] at hsound
  have htells := tells_of_carried hsound.1 hoperation hcarried
  exact ⟨htells, fun hempty failure hfailure => htells.not_stopping hempty hfailure⟩

namespace Sample

open Shared.Sample

def launched : Warden := ⟨.standard, some firstHandle, 1⟩

/-- The host does not let the group be signalled. -/
def forbidden : List Exchange :=
  [⟨.readClock, (⟨0⟩ : Instant)⟩, ⟨.signalGroup 7 .terminate, (.error 1 : Except Errno Unit)⟩]

theorem forbidden_carried :
    (restartWith (some "+1d")).Carried launched true forbidden
      (launched, .launched (.error (firstHandle.undelivered .terminate 1))) :=
  .acquired rfl (.goOn (.goOn .finish))

end Sample

theorem outcome_fixes_state_forbidden :
    ∃ x : Shared ProcessTable, Shared.Reachable ProcessTable.truthfulHost .standard x ∧
      x.seat = .vacant Sample.launched ∧
      (∀ completion ∈ completions x.history, completion.Carried x.history) ∧
      Holds Sample.launched Sample.forbidden Sample.launched := by
  obtain ⟨x, hx, -, hseat⟩ := Shared.Sample.launched_reaches
  obtain ⟨hcompletions, houtcome⟩ := outcome_fixes_state hx
  exact ⟨x, hx, hseat, hcompletions,
    (houtcome _ _ _ _ _ _ hseat (by simp) Sample.forbidden_carried).1⟩

end Operation

end ClockWarden.Supervisor
