import ClockWarden.Proofs.Supervisor.Endings
import ClockWarden.Proofs.Supervisor.Outcome

/-! A supervisor is never stuck. Whatever its callers and its host have done to it, be the process half
stopped, its leader reaped without its group being gone, or no process there at all, the next restart and
the next shutdown succeed if the host does from then on what it is asked to (`no_stuck_state`). An earlier
attempt that failed or was given up costs nothing but its work: how the leader ended is not forgotten. -/

namespace ClockWarden.Supervisor

open Host Operation

variable {World : Type} {behaviour : Behaviour World} {deployment : Deployment}

namespace Warden

/-- The clock can count as far as the deadline, if the exchanges begin with a stop. -/
def Timely (s : Warden) (exchanges : List Exchange) : Prop :=
  ∀ (now : Instant) (rest : List Exchange), exchanges = ⟨.readClock, now⟩ :: rest →
    (now.after? s.deployment.stopTimeout).isSome

/-- The old process is gone, and a new one runs under a fake time, is managed, is named by the answer and
has been counted. -/
def Relaunches (s : Warden) (time : FakeTime) (exchanges : List Exchange) (result : Result) : Prop :=
  ∃ stop environment command now handle,
    exchanges =
      stop ++ [⟨.inherit, environment⟩, ⟨.spawn command, .ok handle.pid⟩, ⟨.readDate, now⟩] ∧
    s.Vacates stop ∧ handle.fakeTime = some time ∧ handle.phase = .unreaped ∧
    result = (⟨s.deployment, some handle, s.launches + 1⟩, .launched (.ok ⟨some time, handle.pid⟩))

/-- The old process is gone, and none is managed any more. -/
def Empties (s : Warden) (exchanges : List Exchange) (result : Result) : Prop :=
  s.Vacates exchanges ∧ result = (⟨s.deployment, none, s.launches⟩, .stopped (.ok ()))

/-- On a host that does what it is asked to, a restart and a shutdown come to an end and succeed, as long
as the clock can count as far as the deadline. -/
structure Recovers (s : Warden) : Prop where
  restarts : ∀ (now : Instant) (time : FakeTime),
    Underway.machine.Attains obliging now ((restartWith (some time.text)).start s)
      fun exchanges result => s.Timely exchanges → s.Relaunches time exchanges result
  stops : ∀ now : Instant,
    Underway.machine.Attains obliging now (shutdown.start s)
      fun exchanges result => s.Timely exchanges → s.Empties exchanges result

variable {s : Warden} {exchanges : List Exchange} {result : Result}

/-- If all is granted, whoever launches or stops first vacates the supervisor. -/
theorem vacates_of_runs (hs : s.Sound) {aim : Aim}
    (hrun : Underway.machine.Runs ((Task.pursue aim).start s) exchanges result)
    (hgranted : ∀ exchange ∈ exchanges, exchange.Granted) (htimely : s.Timely exchanges) :
    ∃ stop rest, exchanges = stop ++ rest ∧ s.Vacates stop ∧
      Underway.machine.Runs
        ((⟨s.deployment, s.launches, .inheriting none⟩ : Underway).vacated aim) rest result := by
  unfold Task.start at hrun
  cases hcurrent : s.current with
  | none =>
      simp only [hcurrent] at hrun
      refine ⟨[], exchanges, rfl, by simp only [Vacates, hcurrent], ?_⟩
      cases aim with
      | launch time => exact hrun
      | stop =>
          obtain ⟨deployment, current, launches⟩ := s
          obtain rfl : current = none := hcurrent
          exact hrun
  | some handle =>
      simp only [hcurrent] at hrun
      obtain ⟨stop, ⟨left, outcome⟩, rest, rfl, hattempt, hrest⟩ :=
        runs_stopping ⟨s.deployment, s.launches, .inheriting none⟩ hrun
      obtain ⟨now, after, rfl, hdeadline⟩ := Termination.runs_start hattempt
      have hgrant := (List.forall_mem_append.mp hgranted).1
      cases outcome with
      | stopped status =>
          exact ⟨_, rest, rfl, vacates_of_attempt hs hcurrent hattempt, Machine.Runs.of_after _ hrest⟩
      | failed failure => exact absurd rfl (Termination.not_failed_of_runs hattempt hgrant failure)
      | overflowed =>
          rcases hdeadline with ⟨hnone, -⟩ | ⟨-, hended⟩
          · have hsome := htimely now _ rfl
            rw [hnone] at hsome
            cases hsome
          · exact absurd rfl hended

theorem relaunches_of_runs (hs : s.Sound) {time : FakeTime}
    (hrun : Underway.machine.Runs ((restartWith (some time.text)).start s) exchanges result)
    (hgranted : ∀ exchange ∈ exchanges, exchange.Granted) (htimely : s.Timely exchanges) :
    s.Relaunches time exchanges result := by
  have hasks : (restartWith (some time.text)).Asks (some time) := ⟨time, rfl, rfl⟩
  rw [start_of_task (task_of_asks hasks)] at hrun
  obtain ⟨stop, rest, rfl, hstop, hrest⟩ := vacates_of_runs hs hrun hgranted htimely
  obtain ⟨environment, command, ⟨cause, rfl, -⟩ | ⟨pid, now, handle, rfl, rfl, htime, hphase, rfl⟩⟩ :=
    runs_inheriting hrest
  · obtain ⟨pid, hpid⟩ := hgranted ⟨.spawn command, .error cause⟩ (by simp)
    cases hpid
  · exact ⟨stop, environment, command, now, handle, rfl, hstop, htime, hphase, rfl⟩

theorem empties_of_runs (hs : s.Sound)
    (hrun : Underway.machine.Runs (shutdown.start s) exchanges result)
    (hgranted : ∀ exchange ∈ exchanges, exchange.Granted) (htimely : s.Timely exchanges) :
    s.Empties exchanges result := by
  rw [start_of_task (show shutdown.task = .ok (.pursue .stop) from rfl)] at hrun
  obtain ⟨stop, rest, rfl, hstop, hrest⟩ := vacates_of_runs hs hrun hgranted htimely
  cases hrest
  rw [List.append_nil]
  exact ⟨hstop, rfl⟩

/-- Nothing more is needed than that the process that is managed has not been marked as retired. -/
theorem Sound.recovers (hs : s.Sound) : s.Recovers := by
  have hgranted {now last : Instant} {exchanges : List Exchange}
      (hadmits : obliging.Admits now exchanges last) : ∀ exchange ∈ exchanges, exchange.Granted :=
    hadmits.forall fun _ _ _ _ => obliging_grants
  refine ⟨fun now time => ?_, fun now => ?_⟩
  · refine (Underway.attains_obliging now _).imp ?_
    rintro exchanges result ⟨hrun, last, hadmits⟩
    exact relaunches_of_runs hs hrun (hgranted hadmits)
  · refine (Underway.attains_obliging now _).imp ?_
    rintro exchanges result ⟨hrun, last, hadmits⟩
    exact empties_of_runs hs hrun (hgranted hadmits)

end Warden

/-- What an operation leaves at its end is sound, if the stage is that it goes on from. -/
theorem Operation.Underway.sound_of_runs {entries : List Log.Entry} {underway : Underway}
    {exchanges : List Exchange} {result : Result}
    (hrun : machine.Runs (.goOn entries underway) exchanges result) (h : underway.stage.Sound) :
    result.1.Sound := by
  have hkeeps (u : Underway) (answer : u.call.Answer) (hu : u.stage.Sound) (_ : True) :
      (u.receive answer).Leads (fun next => next.stage.Sound) (fun left => left.1.Sound) :=
    (keeps_receive hu answer).imp (fun _ hnext => hnext.1) (fun _ hleft => hleft.1)
  exact hrun.leads hkeeps (fun _ _ => trivial) ((Turn.leads_goOn entries underway).mpr h)

namespace Shared

/-- A supervisor that nobody has recovers, and it knows how a leader ended that it has reaped. One that
somebody has recovers when that call is through, and that call comes to an end. -/
theorem no_stuck_state {x : Shared ProcessTable} (hx : Reachable ProcessTable.host deployment x) :
    (∀ s, x.seat = .vacant s → s.Recovers ∧
      ∀ handle status, s.current = some handle → handle.phase = .reaped status →
        ∃ f older, x.world.families = f :: older ∧ f.pid = handle.pid ∧ f.leader = .reaped status) ∧
    ∀ caller operation underway, x.seat = .taken caller operation underway →
      ∀ now : Instant, Underway.machine.Attains obliging now (.goOn [] underway)
        fun _ result => result.1.Recovers := by
  have hsound := hx.sound
  refine ⟨fun s hseat => ⟨?_, ?_⟩, ?_⟩
  · rw [hseat] at hsound
    exact hsound.1.recovers
  · intro handle status hcurrent hphase
    have hagrees := hx.settled.agrees (by simp [hseat])
    simp only [hseat, Seat.custody, hcurrent, Option.map_some] at hagrees
    obtain ⟨f, older, hfamilies, -, hpid, -, hstatus⟩ := hagrees
    refine ⟨f, older, hfamilies, hpid, ?_⟩
    have hknown : f.leader.status? = some status := by
      rw [show f.leader.status? = _ from hstatus, Handle.custody, hphase]
      rfl
    cases hleader : f.leader <;> simp_all [Leader.status?]
  · intro caller operation underway hseat now
    rw [hseat] at hsound
    refine (Underway.attains_obliging now _).imp ?_
    rintro exchanges result ⟨hrun, -⟩
    exact (Underway.sound_of_runs hrun hsound.1).recovers

/-! ### A run

A process ends when it is asked to, but leaves a member of its group behind, which the host does not let
be killed; so the restart fails after the leader has been reaped. -/

namespace Sample

def stranded : Handle := { firstHandle with phase := .reaped (.signaled .terminate) }

theorem stranded_reaches :
    Reaches ProcessTable.host .standard
      ⟨[{ pid := 7, leader := .reaped (.signaled .terminate), members := [{}] }]⟩
      (.vacant ⟨.standard, some stranded, 1⟩) := by
  obtain ⟨x, hx, hworld, hseat⟩ := launched_reaches
  have h : Reaches ProcessTable.host .standard ⟨[{ pid := 7 }]⟩
      (.vacant ⟨.standard, some firstHandle, 1⟩) := ⟨x, hx.of_truthful, hworld, hseat⟩
  obtain ⟨caller, h⟩ := h.acquire (.restartWith (some "+1d")) rfl rfl
  have h := h.exchange (⟨0⟩ : Instant) rfl rfl
  have h := h.exchange (.ok () : Except Errno Unit) rfl rfl
  have hforks : ProcessTable.host.acts ⟨[{ pid := 7 }]⟩ ⟨[{ pid := 7, members := [{}] }]⟩ :=
    List.Forall₂.cons (.forks (Or.inr ⟨rfl, rfl⟩)) .nil
  have hends : ProcessTable.host.acts ⟨[{ pid := 7, members := [{}] }]⟩
      ⟨[{ pid := 7, leader := .ended (.signaled .terminate), members := [{}] }]⟩ :=
    List.Forall₂.cons (.ends rfl) .nil
  have h := (h.acts hforks).acts hends
  have h := h.exchange (some (.ok (.signaled .terminate)) : Option (Except Error ExitStatus))
    ⟨⟨_, List.mem_cons_self, rfl, rfl⟩, rfl⟩ rfl
  have h := h.exchange (.ok () : Except Errno Unit) rfl rfl
  have h := h.exchange (⟨Instant.limit⟩ : Instant) rfl rfl
  exact h.finish (.error 1 : Except Errno Unit) rfl rfl

end Sample

theorem no_stuck_state_stranded :
    ∃ (x : Shared ProcessTable) (s : Warden) (handle : Handle) (f : Family) (older : List Family),
      Reachable ProcessTable.host .standard x ∧ x.seat = .vacant s ∧ s.Recovers ∧
        s.current = some handle ∧ handle.phase = .reaped (.signaled .terminate) ∧
        x.world.families = f :: older ∧ f.members.length = 1 ∧ f.pid = handle.pid ∧
        f.leader = .reaped (.signaled .terminate) := by
  obtain ⟨x, hx, hworld, hseat⟩ := Sample.stranded_reaches
  obtain ⟨hrecovers, hknown⟩ := (no_stuck_state hx).1 _ hseat
  obtain ⟨f, older, hfamilies, hpid, hleader⟩ := hknown Sample.stranded _ rfl rfl
  have hmembers : f.members.length = 1 := by
    rw [hworld] at hfamilies
    cases hfamilies
    rfl
  exact ⟨x, _, _, f, older, hx, hseat, hrecovers, rfl, rfl, hfamilies, hmembers, hpid, hleader⟩

end Shared

end ClockWarden.Supervisor
