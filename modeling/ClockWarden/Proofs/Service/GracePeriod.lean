import ClockWarden.Proofs.Supervisor.Endings
import ClockWarden.Proofs.Supervisor.Outcome
import ClockWarden.Proofs.Supervisor.Retiring
import ClockWarden.Service.Run

/-! How long a process may be given to stop. The deadline is a reading of the clock and the time that the
process is given, and an operation that is to stop a process breaks off where the clock cannot count so
far: nothing is sent, the process stays managed, and a request is not answered. Otherwise the operation
comes to an answer (`breaks_off_iff`). Every number of seconds is accepted, also those that no clock can
add to what it shows. -/

namespace ClockWarden

open Host Supervisor Operation

def Host.Instant.seconds (t : Instant) : Nat := t.nanos / 1000000000

theorem Host.Instant.after?_eq_none_iff {now : Instant} {grace : Duration} :
    now.after? grace = none ↔ limit ≤ now.nanos + grace.nanos := by
  unfold after?
  split <;> rename_i h
  · exact iff_of_false (by simp) (Nat.not_le_of_lt h)
  · exact iff_of_true rfl (Nat.le_of_not_lt h)

/-- With whole seconds to be waited, the parts of a second that the clock shows do not matter. -/
theorem Host.Instant.after?_ofSeconds_eq_none_iff {now : Instant} {seconds : Nat} :
    now.after? (.ofSeconds seconds) = none ↔ Nat.pow 2 63 ≤ now.seconds + seconds := by
  have hlimit : limit = Nat.pow 2 63 * 1000000000 := rfl
  rw [after?_eq_none_iff, hlimit]
  simp only [Instant.seconds, Duration.ofSeconds]
  omega

namespace Supervisor

/-- The answers of an operation that has not broken off. -/
def Operation.Aim.Answers : Aim → Reply → Prop
  | .launch _, reply => ∃ result, reply = .launched result
  | .stop, reply => ∃ result, reply = .stopped result

/-- Once the old process has been stopped, or could not be, an operation comes to its answer. -/
theorem Operation.Underway.answers_of_retired {u : Underway} {aim : Aim} {ended : Termination.Result}
    (hended : ended.2 ≠ .overflowed) {exchanges : List Exchange} {result : Result}
    (h : machine.Runs (u.retired aim ended) exchanges result) : aim.Answers result.2 := by
  obtain ⟨left, outcome⟩ := ended
  cases outcome with
  | stopped status =>
      have hvacated := Machine.Runs.of_after _ h
      cases aim with
      | launch time =>
          obtain ⟨environment, command, ⟨cause, -, rfl⟩ | ⟨pid, now, handle, -, -, -, -, rfl⟩⟩ :=
            runs_inheriting hvacated
          · exact ⟨_, rfl⟩
          · exact ⟨_, rfl⟩
      | stop =>
          cases hvacated
          exact ⟨_, rfl⟩
  | failed failure =>
      cases h
      cases aim <;> exact ⟨_, rfl⟩
  | overflowed => exact absurd rfl hended

/-- What an operation on a supervisor with a process has done when it ends: it has read the clock, and
either there was no deadline and nothing else was done, or it has come to an answer. -/
def Warden.Concludes (s : Warden) (aim : Operation.Aim) (start : Instant) (exchanges : List Exchange)
    (result : Result) : Prop :=
  ∃ (now : Instant) (rest : List Exchange), exchanges = ⟨.readClock, now⟩ :: rest ∧ start ≤ now ∧
    (now.after? s.deployment.stopTimeout = none ∧ rest = [] ∧ result = (s, .overflowed) ∨
      (now.after? s.deployment.stopTimeout).isSome ∧ aim.Answers result.2)

theorem Warden.concludes_of_runs {s : Warden} {handle : Handle} (hcurrent : s.current = some handle)
    {aim : Operation.Aim} {start last : Instant} {exchanges : List Exchange} {result : Result}
    (hrun : Underway.machine.Runs ((Task.pursue aim).start s) exchanges result)
    (hadmits : punctual.Admits start exchanges last) : s.Concludes aim start exchanges result := by
  unfold Task.start at hrun
  simp only [hcurrent] at hrun
  obtain ⟨stop, ended, rest, rfl, hattempt, hrest⟩ :=
    runs_stopping ⟨s.deployment, s.launches, .inheriting none⟩ hrun
  obtain ⟨now, after, rfl, hdeadline⟩ := Termination.runs_start hattempt
  have hnow : start ≤ now := by
    cases hadmits with
    | cons becomes answers _ => exact Instant.le_trans (punctual_becomes becomes) (answers.2 ▸ answers.1)
  refine ⟨now, after ++ rest, rfl, hnow, ?_⟩
  rcases hdeadline with ⟨hnone, rfl, rfl⟩ | ⟨hsome, hended⟩
  · obtain ⟨deployment, current, launches⟩ := s
    obtain rfl : current = some handle := hcurrent
    cases hrest
    exact Or.inl ⟨hnone, rfl, rfl⟩
  · exact Or.inr ⟨hsome, Underway.answers_of_retired hended hrest⟩

end Supervisor

namespace Service

variable {World : Type} {behaviour : Behaviour World} {deployment : Deployment}

/-- A request for a restart is answered unless the restart has broken off. -/
theorem Run.response_of_concludes {s : Warden} {time : FakeTime} {start : Instant}
    {exchanges : List Exchange} {result : Result}
    (h : s.Concludes (.launch (some time)) start exchanges result) :
    (response (.restart time) result.2).isSome ↔ result.2 ≠ .overflowed := by
  obtain ⟨now, rest, -, -, ⟨-, -, rfl⟩ | ⟨-, answer, hanswer⟩⟩ := h
  · exact iff_of_false (by simp [response]) (fun h => h rfl)
  · rw [hanswer]
    exact iff_of_true rfl (by simp)

/-- On a punctual host an operation that finds a process to be stopped comes to an end. If the clock
cannot count as far as the deadline it breaks off, with the process managed as before, and leaves a request
unanswered; otherwise it comes to an answer, and so does the request. With settings that were accepted it
is the seconds that the clock shows and those to be waited that decide. -/
theorem breaks_off_iff {x : Shared World} (hx : Shared.Reachable behaviour deployment x) {s : Warden}
    (hseat : x.seat = .vacant s) {handle : Handle} (hcurrent : s.current = some handle) :
    (∀ (operation : Operation) (aim : Operation.Aim), operation.task = .ok (.pursue aim) →
      ∀ start : Instant,
        Underway.machine.Attains punctual start (operation.start s) (s.Concludes aim start)) ∧
    (∀ (time : FakeTime) (start : Instant),
      Underway.machine.Attains punctual start ((restartWith (some time.text)).start s)
        fun exchanges result => s.Concludes (.launch (some time)) start exchanges result ∧
          ((Run.response (.restart time) result.2).isSome ↔ result.2 ≠ .overflowed)) ∧
    ∀ arguments environment settings,
      CommandLine.Settings.ofArguments arguments environment = .ok settings →
      deployment = settings.deployment → ∀ now : Instant,
        (now.after? s.deployment.stopTimeout = none ↔
          Nat.pow 2 63 ≤ now.seconds + settings.stopTimeout.toNat) := by
  have hconcludes (operation : Operation) (aim : Operation.Aim)
      (asks : operation.task = .ok (.pursue aim)) (start : Instant) :
      Underway.machine.Attains punctual start (operation.start s) (s.Concludes aim start) := by
    rw [start_of_task asks]
    refine (Underway.attains start _).imp ?_
    rintro exchanges result ⟨hrun, last, hadmits⟩
    exact Warden.concludes_of_runs hcurrent hrun hadmits
  refine ⟨hconcludes, fun time start => ?_, ?_⟩
  · have hasks : (restartWith (some time.text)).Asks (some time) := ⟨time, rfl, rfl⟩
    refine (hconcludes _ _ (task_of_asks hasks) start).imp ?_
    exact fun exchanges result h => ⟨h, Run.response_of_concludes h⟩
  · intro arguments environment settings _ hdeployment now
    have hsound := hx.sound
    rw [hseat] at hsound
    rw [hsound.2, hdeployment]
    exact Instant.after?_ofSeconds_eq_none_iff

/-! ### A grace period that no clock can count

The largest number of seconds is accepted. The first process is launched all the same, and is never
stopped. -/

namespace Sample

open Shared.Sample

def arguments : List Bytes :=
  [Utf8.encode "--stop-timeout-secs", Utf8.encode "18446744073709551615"]

def settings : CommandLine.Settings := { stopTimeout := 18446744073709551615 }

theorem accepted : CommandLine.Settings.ofArguments arguments .empty = .ok settings := by
  rfl

theorem launched_reaches (deployment : Deployment) :
    ∃ handle, Shared.Reaches ProcessTable.host deployment ⟨[{ pid := 7 }]⟩
      (.vacant ⟨deployment, some handle, 1⟩) := by
  have h : Shared.Reaches ProcessTable.host deployment {} (.vacant { deployment }) :=
    ⟨_, .begin, rfl, rfl⟩
  obtain ⟨caller, h⟩ := h.acquire .launchInitial rfl rfl
  have h := h.exchange Environment.empty rfl rfl
  have h := h.exchange (.ok 7 : Except Error Pid) ⟨fun f hf => (by cases hf), rfl⟩ rfl
  exact ⟨_, h.finish noon rfl rfl⟩

end Sample

theorem breaks_off_always :
    ∃ (x : Shared ProcessTable) (s : Warden),
      CommandLine.Settings.ofArguments Sample.arguments .empty = .ok Sample.settings ∧
      Shared.Reachable ProcessTable.host Sample.settings.deployment x ∧ x.seat = .vacant s ∧
      s.current.isSome ∧
      ∀ start : Instant,
        Underway.machine.Attains punctual start ((restartWith (some "+1d")).start s)
          fun exchanges result => exchanges.length = 1 ∧ result = (s, .overflowed) ∧
            Run.response (.restart Shared.Sample.nextDay) result.2 = none := by
  obtain ⟨handle, x, hx, -, hseat⟩ := Sample.launched_reaches Sample.settings.deployment
  obtain ⟨-, hrestarts, hseconds⟩ := breaks_off_iff hx hseat rfl
  refine ⟨x, _, Sample.accepted, hx, hseat, rfl, fun start => ?_⟩
  refine (hrestarts Shared.Sample.nextDay start).imp ?_
  rintro exchanges result ⟨⟨now, rest, rfl, -, ⟨-, rfl, rfl⟩ | ⟨hsome, -⟩⟩, -⟩
  · exact ⟨rfl, rfl, rfl⟩
  · have hbeyond : Nat.pow 2 63 ≤ now.seconds + Sample.settings.stopTimeout.toNat :=
      Nat.le_trans (by decide) (Nat.le_add_left _ _)
    rw [(hseconds _ _ _ Sample.accepted rfl now).mpr hbeyond] at hsome
    cases hsome

end Service

end ClockWarden
