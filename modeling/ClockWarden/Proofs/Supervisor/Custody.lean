import ClockWarden.Proofs.Host.ProcessTable
import ClockWarden.Proofs.Supervisor.Sharing

/-! The child that a supervisor looks after, at every stage of every operation. An exchange tells about
it what `Custody.learn` says, and it is let go of only after its leader was reaped, with an exchange
that found the group empty or sent it a killing signal (`Custody.Moves`). So on a host that keeps a
process table the supervisor and the table always agree (`Reachable.settled`). -/

namespace ClockWarden.Supervisor

open Host

/-- What a handle says about the child that it stands for. -/
def Handle.custody (h : Handle) : Custody := ⟨h.pid, h.phase.status?⟩

theorem Handle.custody_learn (h : Handle) {exchange : Exchange} (hspawn : exchange.spawned? = none) :
    some (h.learn exchange).custody = Custody.learn (some h.custody) exchange := by
  unfold learn Custody.learn
  rw [hspawn]
  cases exchange.reaped? with
  | none => rfl
  | some status =>
      unfold custody reap
      cases hphase : h.phase <;> simp [hphase, Phase.status?]

namespace Operation

/-- The child that is looked after at a stage. -/
def Stage.custody : Stage → Option Custody
  | .stopping _ termination => some termination.handle.custody
  | .inheriting _ => none
  | .launching launch =>
    match launch.stage with
    | .spawning => none
    | .stamping pid => some ⟨pid, none⟩
  | .polling handle => some handle.custody
  | .discarding discard => some discard.handle.custody

/-- An operation lets go only of a process that it knows to have ended. -/
def Stage.Certain : Stage → Prop
  | .discarding discard => ∃ status, discard.handle.phase = .reaped status
  | _ => True

end Operation

/-- The child that is looked after. -/
def Seat.custody : Seat → Option Custody
  | .vacant warden => warden.current.map Handle.custody
  | .taken _ _ underway => underway.stage.custody
  | .closing discard => some discard.handle.custody
  | .closed => none

def Seat.Certain : Seat → Prop
  | .taken _ _ underway => underway.stage.Certain
  | _ => True

/-- What becomes of the child that is looked after, at an exchange. -/
def Custody.Moves (before : Option Custody) (exchange : Exchange) (after : Option Custody) : Prop :=
  after = Custody.learn before exchange ∨
    after = none ∧ ∃ custody, before = some custody ∧ Custody.learn before exchange = before ∧
      custody.status?.isSome ∧ (exchange.FindsEmpty custody.pid ∨ exchange.Kills custody.pid)

namespace Operation.Underway

theorem custody_of_spawn {u : Underway} (h : u.call.IsSpawn) :
    u.stage.custody = none ∧ u.stage.current = none := by
  obtain ⟨deployment, launches, stage⟩ := u
  cases stage with
  | stopping aim termination => exact absurd h termination.call_not_spawn
  | launching launch =>
      obtain ⟨program, environment, time, stage⟩ := launch
      cases stage with
      | spawning => exact ⟨rfl, rfl⟩
      | stamping pid =>
          obtain ⟨command, h⟩ := h
          cases h
  | discarding discard => exact absurd h discard.call_not_spawn
  | _ =>
      obtain ⟨command, h⟩ := h
      cases h

theorem call_ne_abandon {u : Underway} (hsound : u.stage.Sound) (hcertain : u.stage.Certain)
    (pid : Pid) : u.call ≠ .abandon pid := by
  intro h
  obtain ⟨deployment, launches, stage⟩ := u
  cases stage with
  | stopping aim termination =>
      obtain ⟨handle, grace, stage⟩ := termination
      cases stage <;> cases h
  | launching launch =>
      obtain ⟨program, environment, time, stage⟩ := launch
      cases stage <;> cases h
  | discarding discard =>
      obtain ⟨handle, stage⟩ := discard
      obtain ⟨status, hphase⟩ := hcertain
      obtain rfl : stage = .killing := Discard.stage_of_reaped hsound hphase
      cases h
  | _ => cases h

/-- A call that may be given up leaves the process that it is stopping. -/
theorem custody_interrupted {u : Underway} (h : u.call.suspends = true) :
    u.interrupted.current.map Handle.custody = u.stage.custody := by
  obtain ⟨deployment, launches, stage⟩ := u
  cases stage with
  | stopping aim termination => rfl
  | launching launch =>
      obtain ⟨program, environment, time, stage⟩ := launch
      cases stage <;> cases h
  | discarding discard =>
      obtain ⟨handle, stage⟩ := discard
      cases stage <;> cases h
  | _ => cases h

/-- What a turn leads to lets go only of a process that is known to have ended, and looks after the
child that an exchange leaves. -/
def Tends (before : Option Custody) (exchange : Exchange) (turn : Turn Underway Result) : Prop :=
  turn.Leads
    (fun next => next.stage.Certain ∧ Custody.Moves before exchange next.stage.custody)
    (fun result => Custody.Moves before exchange (result.1.current.map Handle.custody))

theorem tends_retired {u : Underway} (aim : Aim) {t : Termination} {exchange : Exchange}
    {result : Termination.Result} (hspawn : exchange.spawned? = none)
    (hends : t.Ends exchange result) :
    Tends (some t.handle.custody) exchange (u.retired aim result) := by
  have hlearn : Custody.learn (some t.handle.custody) exchange = some t.handle.custody := by
    simp only [Custody.learn, hspawn, hends.1]
  obtain ⟨handle, outcome⟩ := result
  cases outcome with
  | stopped status =>
      obtain ⟨-, hphase, -, hgroup⟩ := hends
      have hreaped : t.handle.custody.status?.isSome := by
        simp only [Handle.custody, hphase, Phase.status?, Option.isSome_some]
      have hmoves : Custody.Moves (some t.handle.custody) exchange none :=
        Or.inr ⟨rfl, _, rfl, hlearn, hreaped, hgroup.imp_right Exchange.KillArrives.kills⟩
      cases aim with
      | launch time => exact ⟨trivial, hmoves⟩
      | stop => exact hmoves
  | failed failure =>
      obtain ⟨-, hhandle, -⟩ := hends
      refine Or.inl ?_
      rw [hlearn, ← hhandle]
      rfl
  | overflowed =>
      obtain ⟨-, hhandle⟩ := hends
      refine Or.inl ?_
      rw [hlearn, ← hhandle]
      rfl

theorem tends_receive {u : Underway} (hsound : u.stage.Sound) (hcertain : u.stage.Certain)
    (answer : u.call.Answer) (hpoll : ¬Exchange.PollFails ⟨u.call, answer⟩) :
    Tends u.stage.custody ⟨u.call, answer⟩ (u.receive answer) := by
  obtain ⟨deployment, launches, stage⟩ := u
  cases stage with
  | stopping aim termination =>
      have hspawn : Exchange.spawned? ⟨termination.call, answer⟩ = none :=
        Exchange.spawned?_eq_none termination.call_not_spawn
      refine (Turn.leads_within _).mpr ((Termination.receive_leads hsound answer).imp ?_ ?_)
      · rintro next ⟨-, hhandle⟩
        refine ⟨trivial, Or.inl ?_⟩
        exact (congrArg (fun h => some (Handle.custody h)) hhandle).trans
          (termination.handle.custody_learn hspawn)
      · exact fun result hends => tends_retired aim hspawn hends
  | inheriting time => exact ⟨trivial, Or.inl rfl⟩
  | launching launch =>
      obtain ⟨program, environment, time, stage⟩ := launch
      cases stage with
      | spawning =>
          rcases answer with cause | pid
          · exact Or.inl rfl
          · exact ⟨trivial, Or.inl rfl⟩
      | stamping pid => exact Or.inl rfl
  | polling handle =>
      have hphase : handle.phase = .unreaped := hsound
      rcases answer with cause | _ | status
      · exact absurd ⟨handle.pid, cause, rfl⟩ hpoll
      · exact Or.inl rfl
      · refine (Turn.leads_after [] (inspected _ (handle.inspected (.ok (some status))))).mpr ?_
        rw [Handle.inspected_of_unreaped hphase]
        refine ⟨⟨status, rfl⟩, Or.inl ?_⟩
        simp only [Stage.custody, Handle.custody, hphase]
        rfl
  | discarding discard =>
      obtain ⟨handle, stage⟩ := discard
      obtain ⟨status, hphase⟩ := hcertain
      obtain rfl : stage = .killing := Discard.stage_of_reaped hsound hphase
      have hreaped : handle.phase = .reaped status := hphase
      refine (Turn.leads_within (Discard.killed handle)).mpr ?_
      rw [Discard.killed_of_reaped hreaped]
      refine Or.inr ⟨rfl, _, rfl, rfl, ?_, Or.inr ⟨answer, rfl⟩⟩
      simp only [Handle.custody, hreaped, Phase.status?, Option.isSome_some]

end Operation.Underway

namespace Operation

/-- The first turn of an operation leaves the custody as it is. -/
theorem Task.start_custody {s : Warden} (h : s.Sound) (task : Task) :
    (task.start s).Leads
      (fun next => next.stage.Certain ∧ next.stage.custody = s.current.map Handle.custody)
      (fun result => result.1.current.map Handle.custody = s.current.map Handle.custody) := by
  cases task with
  | pursue aim =>
      unfold Task.start
      cases hcurrent : s.current with
      | none =>
          cases aim with
          | launch time => exact ⟨trivial, rfl⟩
          | stop => exact congrArg (Option.map Handle.custody) hcurrent
      | some handle => exact ⟨trivial, rfl⟩
  | tell =>
      unfold Task.start
      cases hcurrent : s.current with
      | none => exact congrArg (Option.map Handle.custody) hcurrent
      | some handle =>
          refine (Turn.leads_within _).mpr ?_
          unfold Inspection.start
          rcases handle.phase_cases (h handle hcurrent) with hphase | ⟨status, hphase⟩ <;> rw [hphase]
          · exact ⟨trivial, rfl⟩
          · refine (Turn.leads_after _ _).mpr ((Turn.leads_within _).mpr ?_)
            simp only [Discard.start, hphase]
            exact ⟨⟨status, hphase⟩, rfl⟩

end Operation

/-- A supervisor agrees with the process table of its host: of the leaders that it has started only the
last one may be unreaped, and that one it looks after until it is itself let go of. -/
structure Shared.Settled (s : Shared ProcessTable) : Prop where
  certain : s.seat.Certain
  agrees : s.seat ≠ .closed → s.world.Agrees s.seat.custody
  single : s.world.Single

namespace Operation.Underway

theorem not_pollFails {u : Underway} (hsound : u.stage.Sound) (hcertain : u.stage.Certain)
    {table table' : ProcessTable} (h : table.Agrees u.stage.custody) {answer : u.call.Answer}
    (hanswers : table.Answers table' u.call answer) : ¬Exchange.PollFails ⟨u.call, answer⟩ := by
  rintro ⟨pid, cause, hexchange⟩
  have hcall : u.call = .pollExit pid := congrArg Exchange.call hexchange
  obtain ⟨deployment, launches, stage⟩ := u
  cases stage with
  | polling handle =>
      have hcustody : handle.custody = ⟨handle.pid, none⟩ := by
        simp only [Handle.custody, show handle.phase = _ from hsound, Phase.status?]
      have hagrees : table.Agrees (some handle.custody) := h
      rw [hcustody] at hagrees
      obtain ⟨found, hfound⟩ := hagrees.poll_ok hanswers
      rw [show answer = _ from hfound] at hexchange
      cases hexchange
  | stopping aim termination =>
      obtain ⟨handle, grace, stage⟩ := termination
      cases stage <;> cases hcall
  | launching launch =>
      obtain ⟨program, environment, time, stage⟩ := launch
      cases stage <;> cases hcall
  | inheriting time => cases hcall
  | discarding discard =>
      obtain ⟨handle, stage⟩ := discard
      obtain ⟨status, hphase⟩ := hcertain
      obtain rfl : stage = .killing := Discard.stage_of_reaped hsound hphase
      cases hcall

end Operation.Underway

theorem Custody.Moves.agrees {before after : Option Custody} {table table' : ProcessTable} {call : Call}
    {answer : call.Answer} (h : Custody.Moves before ⟨call, answer⟩ after)
    (hagrees : table.Agrees before) (hanswers : table.Answers table' call answer)
    (hspawn : call.IsSpawn → before = none) (habandon : ∀ pid, call ≠ .abandon pid) :
    table'.Agrees after := by
  have hlearn := hagrees.answers hanswers hspawn habandon
  rcases h with rfl | ⟨rfl, custody, rfl, hsame, hreaped, -⟩
  · exact hlearn
  · rw [hsame] at hlearn
    exact hlearn.let_go hreaped

namespace Shared

theorem Settled.of_agrees {s : Shared ProcessTable} (hcertain : s.seat.Certain)
    (hagrees : s.world.Agrees s.seat.custody) : s.Settled := ⟨hcertain, fun _ => hagrees, hagrees.single⟩

theorem settled_proceed {s : Shared ProcessTable} {caller : Caller} {operation : Operation}
    {turn : Turn Operation.Underway Operation.Result}
    (h : turn.Leads (fun next => next.stage.Certain ∧ s.world.Agrees next.stage.custody)
      (fun result => s.world.Agrees (result.1.current.map Handle.custody))) :
    (s.proceed caller operation turn).Settled := by
  cases turn with
  | goOn entries next => exact .of_agrees h.1 h.2
  | finish entries result => exact .of_agrees trivial h

theorem settled_letGo {s : Shared ProcessTable} {turn : Turn Discard Unit}
    (h : turn.Leads (fun next => s.world.Agrees (some next.handle.custody)) (fun _ => s.world.Single)) :
    (s.letGo turn).Settled := by
  cases turn with
  | goOn entries next => exact .of_agrees trivial h
  | finish entries result => exact ⟨trivial, fun hopen => absurd rfl hopen, h⟩

/-- While a supervisor is let go of, its custody ends only with the child reaped, or left to the host. -/
theorem settled_closing {s : Shared ProcessTable} {discard : Discard} (hsound : discard.Sound)
    (h : s.world.Agrees (some discard.handle.custody)) {answer : discard.call.Answer}
    {table : ProcessTable} (hanswers : s.world.Answers table discard.call answer) :
    ((s.answered none ⟨discard.call, answer⟩ table).letGo (discard.receive answer)).Settled := by
  by_cases hreleasing : discard.stage = .releasing
  · obtain ⟨handle, stage⟩ := discard
    cases hreleasing
    refine settled_letGo ?_
    rw [show table = _ from hanswers]
    exact h.single.abandon _
  · have hspawn := discard.call_not_spawn
    have habandon : ∀ pid, discard.call ≠ .abandon pid := by
      obtain ⟨handle, stage⟩ := discard
      intro pid hcall
      cases stage with
      | releasing => exact hreleasing rfl
      | _ => cases hcall
    have hagrees := h.answers hanswers (fun h => absurd h hspawn) habandon
    refine settled_letGo ((Discard.receive_sound hsound answer).imp ?_ ?_)
    · rintro next ⟨-, hhandle⟩
      rw [hhandle, Handle.custody_learn _ (Exchange.spawned?_eq_none hspawn)]
      exact hagrees
    · exact fun _ _ => hagrees.single

theorem Step.settled {deployment : Deployment} {s s' : Shared ProcessTable}
    (hstep : Step ProcessTable.host s s') (hsound : s.seat.Sound deployment) (h : s.Settled) :
    s'.Settled := by
  cases hstep with
  | host acts => exact ⟨h.certain, fun hopen => (h.agrees hopen).acts acts, h.single.acts acts⟩
  | call opened fresh => exact ⟨h.certain, h.agrees, h.single⟩
  | refuse waits refused => exact ⟨h.certain, h.agrees, h.single⟩
  | giveUpWaiting waits => exact ⟨h.certain, h.agrees, h.single⟩
  | acquire waits asks vacant =>
      obtain ⟨-, hagrees, -⟩ := h
      rw [vacant] at hagrees hsound
      have hagrees := hagrees (by simp)
      rw [Operation.start_of_task asks]
      refine settled_proceed ((Operation.Task.start_custody hsound.1 _).imp ?_ ?_)
      · rintro next ⟨hcertain, hcustody⟩
        rw [hcustody]
        exact ⟨hcertain, hagrees⟩
      · intro result hcustody
        rw [hcustody]
        exact hagrees
  | @exchange caller operation underway world taken answer answers =>
      obtain ⟨hcertain, hagrees, -⟩ := h
      rw [taken] at hcertain hagrees hsound
      have hagrees := hagrees (by simp)
      have hpoll := Operation.Underway.not_pollFails hsound.1 hcertain hagrees answers
      have hspawn (hcall : underway.call.IsSpawn) : underway.stage.custody = none :=
        (Operation.Underway.custody_of_spawn hcall).1
      have habandon := Operation.Underway.call_ne_abandon hsound.1 hcertain
      refine settled_proceed
        ((Operation.Underway.tends_receive hsound.1 hcertain answer hpoll).imp ?_ ?_)
      · exact fun next hnext => ⟨hnext.1, hnext.2.agrees hagrees answers hspawn habandon⟩
      · exact fun result hmoves => hmoves.agrees hagrees answers hspawn habandon
  | @giveUp caller operation underway taken suspended =>
      obtain ⟨-, hagrees, -⟩ := h
      rw [taken] at hagrees
      refine .of_agrees trivial ?_
      rw [show Seat.custody (.vacant underway.interrupted) = _ from
        Operation.Underway.custody_interrupted suspended]
      exact hagrees (by simp)
  | @close warden vacant unused =>
      obtain ⟨-, hagrees, -⟩ := h
      rw [vacant] at hagrees hsound
      have hcustody : s.world.Agrees (warden.current.map Handle.custody) := hagrees (by simp)
      refine settled_letGo ?_
      unfold Warden.drop
      cases hcurrent : warden.current with
      | none => exact hcustody.single
      | some handle =>
          refine (Discard.start_sound (hsound.1 handle hcurrent)).imp ?_ (fun _ h => h.elim)
          rintro next ⟨-, hhandle, -⟩
          rw [hcurrent] at hcustody
          rw [hhandle]
          exact hcustody
  | closing closes answer answers =>
      obtain ⟨-, hagrees, -⟩ := h
      rw [closes] at hagrees hsound
      exact settled_closing hsound (hagrees (by simp)) answers

theorem Reachable.of_truthful {deployment : Deployment} {s : Shared ProcessTable}
    (h : Reachable ProcessTable.truthfulHost deployment s) : Reachable ProcessTable.host deployment s :=
  @Reachable.mono _ ProcessTable.truthfulHost ProcessTable.host _ rfl (fun _ _ hacts => hacts)
    (fun _ _ _ _ hanswers => And.left hanswers) _ h

/-- On a host that keeps a process table the supervisor always knows how its child stands. -/
theorem Reachable.settled {deployment : Deployment} {s : Shared ProcessTable}
    (h : Reachable ProcessTable.host deployment s) : s.Settled := by
  induction h with
  | begin => exact .of_agrees trivial (fun f hf => (by cases hf))
  | step hreachable hstep ih => exact hstep.settled hreachable.sound ih

end Shared

end ClockWarden.Supervisor
