import ClockWarden.Proofs.Host.Strangers
import ClockWarden.Proofs.Supervisor.Groups

/-! Whom the signals of a supervisor reach, on a host that gives numbers to strangers. Every signal goes to
the group of the process that was started last, through a handle that is held and not retired; while the
leader has not been reaped, or the group has members, that number is no stranger's
(`signals_reach_own_group`). Afterwards it may be, and the group is signalled all the same
(`strangers_are_signalled`). -/

namespace ClockWarden.Supervisor

open Host

variable {World View : Type}

/-- An event as it is told of what is seen of the host. -/
def Event.map (view : World → View) : Event World → Event View
  | .called caller operation => .called caller operation
  | .exchanged caller exchange => .exchanged caller exchange
  | .returned caller operation reply world => .returned caller operation reply (view world)
  | .givenUp caller => .givenUp caller

namespace Shared

/-- A shared supervisor with what is seen of its host. -/
def map (view : World → View) (s : Shared World) : Shared View :=
  ⟨view s.world, s.seat, s.waiting, s.history.map (Event.map view)⟩

theorem map_proceed (view : World → View) (s : Shared World) (caller : Caller) (operation : Operation)
    (turn : Turn Operation.Underway Operation.Result) :
    (s.proceed caller operation turn).map view = (s.map view).proceed caller operation turn := by
  cases turn <;> rfl

theorem map_letGo (view : World → View) (s : Shared World) (turn : Turn Discard Unit) :
    (s.letGo turn).map view = (s.map view).letGo turn := by
  cases turn <;> rfl

variable {behaviour : Behaviour World} {behaviour' : Behaviour View} {deployment : Deployment}

theorem Step.map {view : World → View}
    (hacts : ∀ world world', behaviour.acts world world' → behaviour'.acts (view world) (view world'))
    (hanswers : ∀ world call answer world', behaviour.answers world call answer world' →
      behaviour'.answers (view world) call answer (view world'))
    {s s' : Shared World} (h : Step behaviour s s') : Step behaviour' (s.map view) (s'.map view) := by
  cases h with
  | host acts => exact .host (s := s.map view) (hacts _ _ acts)
  | @call caller operation opened fresh =>
      refine @Step.call _ _ (s.map view) caller operation opened ?_
      intro task hmem
      obtain ⟨event, hevent, heq⟩ := List.mem_map.mp hmem
      cases event with
      | called other operation =>
          cases heq
          exact fresh _ hevent
      | _ => cases heq
  | refuse waits refused => exact @Step.refuse _ _ (s.map view) _ _ _ waits refused
  | acquire waits asks vacant =>
      rw [map_proceed]
      exact @Step.acquire _ _ (s.map view) _ _ _ _ waits asks vacant
  | exchange taken answer answers =>
      rw [map_proceed]
      exact @Step.exchange _ _ (s.map view) _ _ _ _ taken answer (hanswers _ _ _ _ answers)
  | giveUpWaiting waits => exact @Step.giveUpWaiting _ _ (s.map view) _ _ waits
  | giveUp taken suspended => exact @Step.giveUp _ _ (s.map view) _ _ _ taken suspended
  | close vacant unused =>
      rw [map_letGo]
      exact @Step.close _ _ (s.map view) _ vacant unused
  | closing closes answer answers =>
      rw [map_letGo]
      exact @Step.closing _ _ (s.map view) _ _ closes answer (hanswers _ _ _ _ answers)

/-- What a supervisor does on a host, it does as well on what is seen of the host. -/
theorem Reachable.map {view : World → View} (hbegins : view behaviour.begins = behaviour'.begins)
    (hacts : ∀ world world', behaviour.acts world world' → behaviour'.acts (view world) (view world'))
    (hanswers : ∀ world call answer world', behaviour.answers world call answer world' →
      behaviour'.answers (view world) call answer (view world'))
    {s : Shared World} (h : Reachable behaviour deployment s) :
    Reachable behaviour' deployment (s.map view) := by
  induction h with
  | begin =>
      have hbegin : Reachable behaviour' deployment
          { world := behaviour'.begins, seat := .vacant { deployment } } := .begin
      rw [← hbegins] at hbegin
      exact hbegin
  | step _ hstep ih => exact ih.step (hstep.map hacts hanswers)

/-- The own processes of a neighborhood are a process table. -/
theorem Reachable.table {s : Shared Neighborhood} (h : Reachable Neighborhood.host deployment s) :
    Reachable ProcessTable.host deployment (s.map Neighborhood.table) := by
  refine @Reachable.map _ _ Neighborhood.host ProcessTable.host deployment _ rfl ?_ ?_ _ h
  · intro n n' hacts
    have hrests : ProcessTable.host.acts n.table n.table := List.forall₂_same.mpr fun f _ => .rests
    cases hacts with
    | own acts => exact acts
    | comes free => exact hrests
    | goes left => exact hrests
  · exact fun n call answer n' hanswers => And.left hanswers

/-- No process of a supervisor bears the number of a stranger. -/
theorem Reachable.apart {s : Shared Neighborhood} (h : Reachable Neighborhood.host deployment s) :
    s.world.Apart := by
  induction h with
  | begin => exact fun pid hpid => (by cases hpid)
  | step _ hstep ih =>
      cases hstep with
      | host acts => exact ih.acts acts
      | acquire waits asks vacant =>
          unfold proceed
          split <;> exact ih
      | exchange taken answer answers =>
          unfold proceed
          split <;> exact ih.answers answers
      | close vacant unused =>
          unfold letGo
          split <;> exact ih
      | closing closes answer answers =>
          unfold letGo
          split <;> exact ih.answers answers
      | _ => exact ih

end Shared

/-- A signal goes to the group of the handle that is held. -/
theorem Seat.handle?_of_signal {seat : Seat} {deployment : Deployment} (hsound : seat.Sound deployment)
    {group : Pid} {signal : Signal} (hcall : seat.call? = some (.signalGroup group signal)) :
    ∃ handle, seat.handle? = some handle ∧ handle.group = group ∧ handle.phase.isRetired = false ∧
      seat.custody = some handle.custody := by
  cases seat with
  | vacant warden => cases hcall
  | closed => cases hcall
  | closing discard =>
      obtain ⟨handle, stage⟩ := discard
      cases stage with
      | killing =>
          cases hcall
          exact ⟨handle, rfl, rfl, hsound, rfl⟩
      | _ => cases hcall
  | taken caller operation underway =>
      obtain ⟨program, launches, stage⟩ := underway
      cases stage with
      | stopping aim termination =>
          have hretired := Termination.Sound.not_retired hsound.1
          obtain ⟨handle, grace, stage⟩ := termination
          cases stage <;> cases hcall <;> exact ⟨handle, rfl, rfl, hretired, rfl⟩
      | discarding discard =>
          obtain ⟨handle, stage⟩ := discard
          cases stage with
          | killing =>
              cases hcall
              exact ⟨handle, rfl, rfl, hsound.1, rfl⟩
          | _ => cases hcall
      | launching launch =>
          obtain ⟨program, environment, time, stage⟩ := launch
          cases stage <;> cases hcall
      | _ => cases hcall

namespace Shared

variable {deployment : Deployment}

/-- Every signal goes to the group of the process that was started last, through a handle that is held and
was not retired, as every attempt to stop it that succeeds does; and it reaches nobody else as long as the
leader has not been reaped or the group has members. A number that a stranger bears is signalled only
after the leader was reaped. -/
theorem signals_reach_own_group {s : Shared Neighborhood} (h : Reachable Neighborhood.host deployment s)
    {group : Pid} {signal : Signal} (hcall : s.seat.call? = some (.signalGroup group signal)) :
    ∃ handle f older,
      s.seat.handle? = some handle ∧ handle.group = group ∧ handle.phase.isRetired = false ∧
      s.world.table.families = f :: older ∧ f.pid = group ∧ f.status? = handle.phase.status? ∧
      (f.status? = none ∨ ¬f.IsEmpty → group ∉ s.world.strangers) ∧
      (group ∈ s.world.strangers → f.IsEmpty ∧ ∃ status, handle.phase = .reaped status) ∧
      ∀ grace exchanges left status,
        Termination.machine.Runs (Termination.start handle grace) exchanges (left, .stopped status) →
        left.phase.isRetired = true ∧ Discard.start left = .finish [] () := by
  obtain ⟨handle, hhandle, hgroup, hretired, hcustody⟩ := Seat.handle?_of_signal h.sound hcall
  have hopen : (s.map Neighborhood.table).seat ≠ .closed := by
    intro hclosed
    rw [show s.seat = .closed from hclosed] at hcall
    cases hcall
  have hagrees := h.table.settled.agrees hopen
  rw [show (s.map Neighborhood.table).seat.custody = some handle.custody from hcustody] at hagrees
  obtain ⟨f, older, hfamilies, -, hpid, -, hstatus⟩ := hagrees
  have hnumber : f.pid = group := hpid.trans hgroup
  have hmem : f ∈ s.world.table.families := by
    rw [show s.world.table.families = _ from hfamilies]
    exact List.mem_cons_self
  have hfree (hstranger : group ∈ s.world.strangers) : f.IsGone := h.apart group hstranger f hmem hnumber
  refine ⟨handle, f, older, hhandle, hgroup, hretired, hfamilies, hnumber, hstatus, ?_, ?_, ?_⟩
  · rintro (hunreaped | hmembers) hstranger
    · have hreaped := (hfree hstranger).2
      rw [hunreaped] at hreaped
      cases hreaped
    · exact hmembers (hfree hstranger).1
  · intro hstranger
    refine ⟨(hfree hstranger).1, (handle.phase_cases hretired).resolve_left fun hphase => ?_⟩
    have hreaped := (hfree hstranger).2
    rw [hstatus, Handle.custody, hphase] at hreaped
    cases hreaped
  · intro grace exchanges left status hruns
    have hphase : left.phase = .retired status :=
      (Termination.leaves_of_runs hruns (Termination.start_leads hretired grace)).1.2
    exact ⟨by rw [hphase]; rfl, by rw [Discard.start, hphase]⟩

/-! ### Runs among strangers

A process is launched while a stranger lives nearby, and is then to be replaced. In another run it ends by
itself, and a stranger gets its number between the look that reaps it and the signal that clears its
group. -/

namespace Sample

variable {table table' : ProcessTable} {strangers : List Pid} {caller : Caller} {operation : Operation}
  {underway next : Operation.Underway}

theorem exchange_among (h : Reaches Neighborhood.host .standard ⟨table, strangers⟩
      (.taken caller operation underway))
    (answer : underway.call.Answer) (answers : table.Answers table' underway.call answer)
    (apart : ∀ pid, Exchange.spawned? ⟨underway.call, answer⟩ = some pid → pid ∉ strangers)
    {entries : List Log.Entry} (goesOn : underway.receive answer = .goOn entries next) :
    Reaches Neighborhood.host .standard ⟨table', strangers⟩ (.taken caller operation next) :=
  h.exchange answer ⟨answers, rfl, apart⟩ goesOn

theorem launched_among_strangers :
    Reaches Neighborhood.host .standard ⟨⟨[{ pid := 7 }]⟩, [9]⟩
      (.vacant ⟨.standard, some firstHandle, 1⟩) := by
  have h : Reaches Neighborhood.host .standard {} (.vacant { deployment := .standard }) :=
    ⟨_, .begin, rfl, rfl⟩
  have hfree : ProcessTable.Free {} 9 := fun f hf => (by cases hf)
  have h := h.acts (.comes hfree)
  obtain ⟨caller, h⟩ := h.acquire .launchInitial rfl rfl
  have h := exchange_among h Environment.empty rfl (fun pid hpid => by cases hpid) rfl
  have h := exchange_among h (.ok 7 : Except Error Pid) ⟨fun f hf => (by cases hf), rfl⟩
    (fun pid hpid => by cases hpid; decide) rfl
  exact h.finish noon ⟨rfl, rfl, fun pid hpid => (by cases hpid)⟩ rfl

/-- The first process is about to be asked to end. -/
theorem asking_among_strangers :
    ∃ s, Reachable Neighborhood.host .standard s ∧ s.world = ⟨⟨[{ pid := 7 }]⟩, [9]⟩ ∧
      s.seat.call? = some (.signalGroup 7 .terminate) := by
  obtain ⟨caller, h⟩ := launched_among_strangers.acquire (.restartWith (some "+1d")) rfl rfl
  obtain ⟨s, hs, hworld, hseat⟩ :=
    exchange_among h (⟨0⟩ : Instant) rfl (fun pid hpid => by cases hpid) rfl
  exact ⟨s, hs, hworld, by rw [hseat]; rfl⟩

/-- The first process has ended and been reaped, and a stranger has got its number. -/
theorem reused_reaches :
    ∃ s, Reachable Neighborhood.host .standard s ∧ s.world.strangers = [7, 9] ∧
      s.seat.call? = some (.signalGroup 7 .kill) := by
  have hends : Neighborhood.host.acts ⟨⟨[{ pid := 7 }]⟩, [9]⟩
      ⟨⟨[{ pid := 7, leader := .ended (.exited 0) }]⟩, [9]⟩ :=
    .own (List.Forall₂.cons (.ends rfl) .nil)
  obtain ⟨caller, h⟩ := (launched_among_strangers.acts hends).acquire .tellStatus rfl rfl
  have h := exchange_among h (.ok (some (.exited 0)) : Except Error (Option ExitStatus))
    ⟨⟨_, List.mem_cons_self, rfl, rfl⟩, rfl⟩ (fun pid hpid => by cases hpid) rfl
  have hfree : ProcessTable.Free ⟨[{ pid := 7, leader := .reaped (.exited 0) }]⟩ 7 := by
    intro f hf _
    obtain rfl := List.mem_singleton.mp hf
    exact ⟨⟨rfl, fun _ => rfl⟩, rfl⟩
  obtain ⟨s, hs, hworld, hseat⟩ := h.acts (.comes hfree)
  exact ⟨s, hs, by rw [hworld], by rw [hseat]; rfl⟩

end Sample

theorem signals_reach_own_group_asking :
    ∃ s : Shared Neighborhood, Reachable Neighborhood.host .standard s ∧
      s.seat.call? = some (.signalGroup 7 .terminate) ∧ s.world.strangers = [9] ∧
      ∃ f older, s.world.table.families = f :: older ∧ f.status? = none ∧ 7 ∉ s.world.strangers := by
  obtain ⟨s, hs, hworld, hcall⟩ := Sample.asking_among_strangers
  obtain ⟨handle, f, older, -, -, -, hfamilies, -, -, hreach, -, -⟩ := signals_reach_own_group hs hcall
  have hunreaped : f.status? = none := by
    rw [hworld] at hfamilies
    cases hfamilies
    rfl
  exact ⟨s, hs, hcall, by rw [hworld], f, older, hfamilies, hunreaped, hreach (Or.inl hunreaped)⟩

/-- A signal may go to a number that a stranger bears. -/
theorem strangers_are_signalled :
    ¬∀ s : Shared Neighborhood, Reachable Neighborhood.host .standard s →
      ∀ group signal, s.seat.call? = some (.signalGroup group signal) →
        group ∉ s.world.strangers := by
  intro hclaim
  obtain ⟨s, hs, hstrangers, hcall⟩ := Sample.reused_reaches
  refine hclaim s hs 7 .kill hcall ?_
  rw [hstrangers]
  exact List.mem_cons_self

end Shared

end ClockWarden.Supervisor
