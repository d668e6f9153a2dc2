import ClockWarden.Proofs.Host.Punctual
import ClockWarden.Proofs.Supervisor.Custody
import ClockWarden.Proofs.Supervisor.Isolation

/-! What a look at the status does. A run of an operation that the host admits is one of a shared supervisor
(`Reaches.carries`), so on a host that keeps a process table no look at the child fails, and telling the
status comes to very little: at most the leader is looked at, and if it has ended its group is killed and
nothing is managed any more (`Warden.inspects_of_runs`). -/

namespace ClockWarden.Supervisor

open Host

variable {World : Type} {behaviour : Behaviour World} {deployment : Deployment}

namespace Shared

/-- Who has a supervisor after a turn of a caller. -/
def seatAfter (caller : Caller) (operation : Operation) :
    Turn Operation.Underway Operation.Result → Seat
  | .goOn _ underway => .taken caller operation underway
  | .finish _ result => .vacant result.1

theorem seat_proceed (s : Shared World) (caller : Caller) (operation : Operation)
    (turn : Turn Operation.Underway Operation.Result) :
    (s.proceed caller operation turn).seat = seatAfter caller operation turn := by
  cases turn <;> rfl

theorem world_proceed (s : Shared World) (caller : Caller) (operation : Operation)
    (turn : Turn Operation.Underway Operation.Result) :
    (s.proceed caller operation turn).world = s.world := by
  cases turn <;> rfl

theorem Reaches.becomes {world later : World} {seat : Seat}
    (h : Reaches behaviour deployment world seat) (becomes : behaviour.Becomes world later) :
    Reaches behaviour deployment later seat := by
  induction becomes with
  | refl => exact h
  | tail _ acts ih => exact ih.acts acts

theorem Reaches.begin {world : World} {warden : Warden}
    (h : Reaches behaviour deployment world (.vacant warden)) {operation : Operation}
    {task : Operation.Task} (asks : operation.task = .ok task) :
    ∃ caller, Reaches behaviour deployment world
      (seatAfter caller operation (operation.start warden)) := by
  obtain ⟨s, hs, rfl, hseat⟩ := h
  obtain ⟨caller, hfresh⟩ := exists_fresh s.history
  have hcalled := hs.step (@Step.call _ _ s caller operation (Or.inl ⟨warden, hseat⟩) hfresh)
  have hacquired := hcalled.step (.acquire List.mem_cons_self asks hseat)
  exact ⟨caller, _, hacquired, world_proceed _ _ _ _, seat_proceed _ _ _ _⟩

/-- A run of whoever has a supervisor, with answers that the host admits, leaves it to others; and what
holds of each exchange on the way holds of all. -/
theorem Reaches.runs {property : Exchange → Prop} {caller : Caller} {operation : Operation}
    (hproperty : ∀ world underway (answer : underway.call.Answer) next,
      Reaches behaviour deployment world (.taken caller operation underway) →
      behaviour.answers world underway.call answer next → property ⟨underway.call, answer⟩)
    {turn : Turn Operation.Underway Operation.Result} {exchanges : List Exchange}
    {result : Operation.Result} (hrun : Operation.Underway.machine.Runs turn exchanges result) :
    ∀ {world last : World}, Reaches behaviour deployment world (seatAfter caller operation turn) →
      behaviour.Admits world exchanges last →
      Reaches behaviour deployment last (.vacant result.1) ∧
        ∀ exchange ∈ exchanges, property exchange := by
  induction hrun with
  | finish =>
      intro world last h hadmits
      cases hadmits with
      | nil becomes => exact ⟨h.becomes becomes, fun exchange hmem => (by cases hmem)⟩
  | @goOn entries underway answer exchanges result hrun ih =>
      intro world last h hadmits
      cases hadmits with
      | @cons _ later next _ _ _ _ becomes answers rest =>
          have hlater := Reaches.becomes h becomes
          have hholds := hproperty later underway answer next hlater answers
          obtain ⟨s, hs, rfl, hseat⟩ := hlater
          have hexchanged := hs.step (.exchange hseat answer answers)
          have hnext : Reaches behaviour deployment next
              (seatAfter caller operation (underway.receive answer)) :=
            ⟨_, hexchanged, world_proceed _ _ _ _, seat_proceed _ _ _ _⟩
          obtain ⟨hleft, hall⟩ := ih hnext rest
          exact ⟨hleft, List.forall_mem_cons.mpr ⟨hholds, hall⟩⟩

/-- An operation that is carried out on a host with a process table looks at no child in vain. -/
theorem Reaches.carries {world last : ProcessTable} {s : Warden}
    (h : Reaches ProcessTable.host deployment world (.vacant s)) {operation : Operation}
    {task : Operation.Task} (asks : operation.task = .ok task) {exchanges : List Exchange}
    {result : Operation.Result}
    (hrun : Operation.Underway.machine.Runs (operation.start s) exchanges result)
    (hadmits : ProcessTable.host.Admits world exchanges last) :
    Reaches ProcessTable.host deployment last (.vacant result.1) ∧
      ∀ exchange ∈ exchanges, ¬exchange.PollFails := by
  obtain ⟨caller, hbegun⟩ := h.begin asks
  refine Reaches.runs ?_ hrun hbegun hadmits
  rintro world underway answer next ⟨x, hx, rfl, hseat⟩ hanswers
  have hsound := hx.sound
  have hsettled := hx.settled
  rw [hseat] at hsound
  have hcertain := hsettled.certain
  have hagrees := hsettled.agrees (by simp [hseat])
  rw [hseat] at hcertain hagrees
  exact Operation.Underway.not_pollFails hsound.1 hcertain hagrees hanswers

end Shared

namespace Warden

def emptied (s : Warden) : Warden := { s with current := none }

/-- What telling the status does to the process that is managed: it is looked at and found to run, or it
has ended, which the look tells or was known before, and its group is killed. -/
inductive Inspects (s : Warden) : List Exchange → Warden → Prop
  | idle (empty : s.current = none) : Inspects s [] s
  | runs {handle : Handle} (managed : s.current = some handle) :
      Inspects s [⟨.pollExit handle.pid, (.ok none : Except Error (Option ExitStatus))⟩] s
  | ended {handle : Handle} (managed : s.current = some handle) (status : ExitStatus)
      (answer : Except Errno Unit) :
      Inspects s
        [⟨.pollExit handle.pid, (.ok (some status) : Except Error (Option ExitStatus))⟩,
          ⟨.signalGroup handle.group .kill, answer⟩] s.emptied
  | known {handle : Handle} (managed : s.current = some handle) {status : ExitStatus}
      (reaped : handle.phase = .reaped status) (answer : Except Errno Unit) :
      Inspects s [⟨.signalGroup handle.group .kill, answer⟩] s.emptied

/-- A process that has been looked at stays managed, or none is managed any more. -/
theorem Inspects.current {s s' : Warden} {exchanges : List Exchange} (h : s.Inspects exchanges s') :
    (s'.current = s.current ∨ s'.current = none) ∧ s'.launches = s.launches := by
  cases h with
  | idle empty => exact ⟨Or.inl rfl, rfl⟩
  | runs managed => exact ⟨Or.inl rfl, rfl⟩
  | _ => exact ⟨Or.inr rfl, rfl⟩

theorem inspects_of_runs {s s' : Warden} (hs : s.Sound) {exchanges : List Exchange}
    {reply : Operation.Reply}
    (hrun : Operation.Underway.machine.Runs (Operation.tellStatus.start s) exchanges (s', reply))
    (hpolls : ∀ exchange ∈ exchanges, ¬exchange.PollFails) : s.Inspects exchanges s' := by
  obtain ⟨deployment, current, launches⟩ := s
  cases current with
  | none =>
      cases hrun
      exact .idle rfl
  | some handle =>
      obtain ⟨pid, environment, fakeTime, startedAt, phase⟩ := handle
      cases phase with
      | unreaped =>
          cases hrun with
          | @goOn _ _ found _ _ hrun =>
              rcases found with cause | _ | status
              -- A look that fails would be taken for the end of the process, but none does.
              · exact absurd ⟨pid, cause, rfl⟩ (hpolls _ List.mem_cons_self)
              · cases hrun
                exact .runs rfl
              · cases hrun with
                | @goOn _ _ answer _ _ hrun =>
                    cases hrun
                    exact .ended rfl status answer
      | reaped status =>
          cases hrun with
          | @goOn _ _ answer _ _ hrun =>
              cases hrun
              exact .known rfl rfl answer
      | retired status =>
          have hretired := hs _ rfl
          cases hretired

end Warden

end ClockWarden.Supervisor
