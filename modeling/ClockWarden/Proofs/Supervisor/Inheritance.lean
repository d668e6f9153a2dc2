import ClockWarden.Proofs.Supervisor.Isolation
import ClockWarden.Proofs.Supervisor.Overlaid
import ClockWarden.Proofs.Supervisor.SingleInstance
import ClockWarden.Rehearsal.Kernel

/-! The environments that processes are started with. The history of every run tells, before each start
of a process, that the same call was told an environment, and what is handed to the process and kept in
its handle is that environment under the overlay for the fake time that the call asks for, whatever came
before (`environment_overlaid`). The block of strings that carries it is read back as it was written and
holds no NUL, but a fake time may be too long for a string of a block
(`environment_not_always_handed_over`). -/

namespace ClockWarden.Supervisor

open Host

variable {World : Type}

/-- What a history had told stays told. -/
theorem exchangesOf_grows (event : Event World) (history : List (Event World)) (caller : Caller) :
    exchangesOf history caller <+: exchangesOf (event :: history) caller := by
  by_cases h : ∀ exchange, event ≠ .exchanged (some caller) exchange
  · exact ⟨[], by rw [List.append_nil, exchangesOf_cons_of_ne h]⟩
  · obtain ⟨exchange, rfl⟩ := not_forall_not.mp h
    rw [exchangesOf_cons_self]
    exact List.prefix_append _ _

/-- A call for a fake time, or for none, was told an environment, and its next exchange asked for a
process with that environment under the overlay. -/
def Furnished (deployment : Deployment) (history : List (Event World)) (caller : Caller)
    (time : Option FakeTime) (environment : Environment) (answer : Except Error Pid) : Prop :=
  ∃ operation inherited, .called caller operation ∈ history ∧ operation.Asks time ∧
    environment = deployment.overlay.apply inherited time ∧
    [⟨.inherit, inherited⟩, ⟨.spawn (deployment.command environment), answer⟩] <:+:
      exchangesOf history caller

theorem Furnished.later {deployment : Deployment} {history : List (Event World)} {caller : Caller}
    {time : Option FakeTime} {environment : Environment} {answer : Except Error Pid}
    (h : Furnished deployment history caller time environment answer) (event : Event World) :
    Furnished deployment (event :: history) caller time environment answer := by
  obtain ⟨operation, inherited, hcalled, hasks, henvironment, hexchanges⟩ := h
  exact ⟨operation, inherited, List.mem_cons_of_mem _ hcalled, hasks, henvironment,
    hexchanges.trans (exchangesOf_grows event history caller).isInfix⟩

/-- A call that has just been told an environment furnishes the process that it asks for. -/
theorem Furnished.of_inherited {deployment : Deployment} {history : List (Event World)} {caller : Caller}
    {operation : Operation} {time : Option FakeTime} {environment inherited : Environment}
    {earlier : List Exchange} (hcalled : .called caller operation ∈ history)
    (hasks : operation.Asks time) (henvironment : environment = deployment.overlay.apply inherited time)
    (hexchanges : exchangesOf history caller = earlier ++ [⟨.inherit, inherited⟩])
    (answer : Except Error Pid) :
    Furnished deployment
      (.exchanged (some caller) ⟨.spawn (deployment.command environment), answer⟩ :: history) caller time
      environment answer := by
  refine ⟨operation, inherited, List.mem_cons_of_mem _ hcalled, hasks, henvironment, earlier, [], ?_⟩
  rw [exchangesOf_cons_self, hexchanges]
  simp only [List.append_nil, List.append_assoc, List.singleton_append]

/-- A handle keeps the environment that its process was started with. -/
def Handle.Furnished (handle : Handle) (deployment : Deployment) (history : List (Event World)) : Prop :=
  ∃ caller,
    Supervisor.Furnished deployment history caller handle.fakeTime handle.environment (.ok handle.pid)

namespace Handle.Furnished

variable {handle : Handle} {deployment : Deployment} {history : List (Event World)}

theorem later (h : handle.Furnished deployment history) (event : Event World) :
    handle.Furnished deployment (event :: history) := by
  obtain ⟨caller, h⟩ := h
  exact ⟨caller, h.later event⟩

theorem of_same (h : handle.Furnished deployment history) {other : Handle} (hsame : other.Same handle) :
    other.Furnished deployment history := by
  obtain ⟨hpid, henvironment, htime, -⟩ := hsame
  unfold Handle.Furnished
  rw [hpid, henvironment, htime]
  exact h

end Handle.Furnished

namespace Operation

/-- What the history tells about a stage of a call: the process that it holds was furnished, and the one
that it starts is being furnished. -/
def Stage.Furnished (deployment : Deployment) (history : List (Event World)) (caller : Caller)
    (operation : Operation) : Stage → Prop
  | .stopping aim termination =>
    (∀ time, aim = .launch time → operation.Asks time) ∧ termination.handle.Furnished deployment history
  | .inheriting time => operation.Asks time
  | .launching launch =>
    launch.deployment = deployment ∧
    match launch.stage with
    | .spawning =>
      operation.Asks launch.fakeTime ∧
      ∃ earlier inherited, launch.environment = deployment.overlay.apply inherited launch.fakeTime ∧
        exchangesOf history caller = earlier ++ [⟨.inherit, inherited⟩]
    | .stamping pid =>
      Supervisor.Furnished deployment history caller launch.fakeTime launch.environment (.ok pid)
  | .polling handle => handle.Furnished deployment history
  | .discarding discard => discard.handle.Furnished deployment history

/-- An event that is no exchange of the call leaves what the history tells about it. -/
theorem Stage.Furnished.later {deployment : Deployment} {history : List (Event World)} {caller : Caller}
    {operation : Operation} {stage : Stage} (h : stage.Furnished deployment history caller operation)
    {event : Event World} (hevent : ∀ exchange, event ≠ .exchanged (some caller) exchange) :
    stage.Furnished deployment (event :: history) caller operation := by
  cases stage with
  | stopping aim termination => exact ⟨h.1, h.2.later event⟩
  | inheriting time => exact h
  | launching launch =>
      obtain ⟨program, environment, time, stage⟩ := launch
      cases stage with
      | spawning =>
          obtain ⟨hdeployment, hasks, earlier, inherited, henvironment, hexchanges⟩ := h
          refine ⟨hdeployment, hasks, earlier, inherited, henvironment, ?_⟩
          rw [exchangesOf_cons_of_ne hevent]
          exact hexchanges
      | stamping pid => exact ⟨h.1, Supervisor.Furnished.later h.2 event⟩
  | polling handle => exact Handle.Furnished.later h event
  | discarding discard => exact Handle.Furnished.later h event

/-- What a turn of a call leads to holds no process that was not furnished. -/
def Furnishes (deployment : Deployment) (history : List (Event World)) (caller : Caller)
    (operation : Operation) (turn : Turn Underway Result) : Prop :=
  turn.Leads (fun next => next.stage.Furnished deployment history caller operation)
    (fun result => ∀ handle, result.1.current = some handle → handle.Furnished deployment history)

section Furnishes

variable {deployment : Deployment} {history : List (Event World)} {caller : Caller}
  {operation : Operation} {u : Underway}

theorem furnishes_retired {aim : Aim} (hasks : ∀ time, aim = .launch time → operation.Asks time)
    {handle : Handle} (hhandle : handle.Furnished deployment history) {result : Termination.Result}
    (h : Termination.Leaves handle result) :
    Furnishes deployment history caller operation (u.retired aim result) := by
  obtain ⟨left, outcome⟩ := result
  have hleft : left.Furnished deployment history := hhandle.of_same h.1
  cases outcome with
  | stopped status =>
      refine (Turn.leads_after _ _).mpr ?_
      cases aim with
      | launch time => exact hasks time rfl
      | stop => exact fun kept hkept => (by cases hkept)
  | failed failure => exact fun kept hkept => (by cases hkept; exact hleft)
  | overflowed => exact fun kept hkept => (by cases hkept; exact hleft)

theorem furnishes_inspected {handle : Handle} (hhandle : handle.Furnished deployment history)
    (hretired : handle.phase.isRetired = false) (runs : Bool) :
    Furnishes deployment history caller operation (u.inspected (handle, runs)) := by
  cases runs with
  | true => exact fun kept hkept => (by cases hkept; exact hhandle)
  | false =>
      refine (Turn.leads_after _ _).mpr ((Turn.leads_within _).mpr ?_)
      refine (Discard.start_sound hretired).imp ?_ (fun _ hfalse => hfalse.elim)
      rintro d ⟨-, rfl, -⟩
      exact hhandle

/-- An exchange with the host furnishes the process that it starts. -/
theorem Underway.furnishes_receive (hsound : u.stage.Sound) (hdeployment : u.deployment = deployment)
    (hcalled : .called caller operation ∈ history)
    (h : u.stage.Furnished deployment history caller operation) (answer : u.call.Answer) :
    Furnishes deployment (.exchanged (some caller) ⟨u.call, answer⟩ :: history) caller operation
      (u.receive answer) := by
  obtain ⟨program, launches, stage⟩ := u
  obtain rfl : program = deployment := hdeployment
  cases stage with
  | stopping aim termination =>
      obtain ⟨hasks, hhandle⟩ := h
      refine (Turn.leads_within _).mpr ((Termination.receive_leads hsound answer).imp ?_ ?_)
      · rintro next ⟨-, hnext⟩
        refine ⟨hasks, (hhandle.later _).of_same ?_⟩
        rw [hnext]
        exact termination.handle.same_learn _
      · exact fun result hends => furnishes_retired hasks (hhandle.later _) (hends.leaves hsound)
  | inheriting time => exact ⟨rfl, h, exchangesOf history caller, answer, rfl, exchangesOf_cons_self ..⟩
  | launching launch =>
      obtain ⟨program, environment, time, stage⟩ := launch
      refine (Turn.leads_within _).mpr ?_
      cases stage with
      | spawning =>
          obtain ⟨rfl, hasks, earlier, inherited, henvironment, hexchanges⟩ := h
          rcases answer with cause | pid
          · exact fun kept hkept => (by cases hkept)
          · exact ⟨rfl, .of_inherited hcalled hasks henvironment hexchanges (.ok pid)⟩
      | stamping pid =>
          refine fun kept hkept => ?_
          cases hkept
          exact ⟨caller, Supervisor.Furnished.later h.2 _⟩
  | polling handle =>
      have hphase : handle.phase = .unreaped := hsound
      have hretired : handle.phase.isRetired = false := congrArg Phase.isRetired hphase
      have hhandle := Handle.Furnished.later h (.exchanged (some caller) ⟨.pollExit handle.pid, answer⟩)
      refine (Turn.leads_after [] (inspected _ (handle.inspected answer))).mpr ?_
      rcases answer with cause | _ | status
      · exact furnishes_inspected hhandle hretired false
      · exact furnishes_inspected hhandle hretired true
      · exact furnishes_inspected (hhandle.of_same (handle.same_reap status))
          (Discard.not_retired_reap hretired status) false
  | discarding discard =>
      refine (Turn.leads_within _).mpr ((Discard.receive_sound hsound answer).imp ?_ ?_)
      · rintro next ⟨-, hnext⟩
        refine (Handle.Furnished.later h _).of_same ?_
        rw [hnext]
        exact discard.handle.same_learn _
      · exact fun _ _ kept hkept => (by cases hkept)

/-- The first turn of a call holds the process that the supervisor managed. -/
theorem Task.furnishes_start {s : Warden} (hsound : s.Sound)
    (h : ∀ handle, s.current = some handle → handle.Furnished deployment history) {task : Task}
    (asks : operation.task = .ok task) :
    Furnishes deployment history caller operation (task.start s) := by
  cases task with
  | pursue aim =>
      have hasks (time : Option FakeTime) (haim : aim = .launch time) : operation.Asks time := by
        rw [haim] at asks
        exact asks_of_task asks
      unfold Task.start
      cases hcurrent : s.current with
      | none =>
          cases aim with
          | launch time => exact hasks time rfl
          | stop =>
              refine fun kept hkept => ?_
              rw [hcurrent] at hkept
              cases hkept
      | some handle => exact ⟨hasks, h handle hcurrent⟩
  | tell =>
      unfold Task.start
      cases hcurrent : s.current with
      | none =>
          refine fun kept hkept => ?_
          rw [hcurrent] at hkept
          cases hkept
      | some handle =>
          have hhandle := h handle hcurrent
          have hretired := hsound handle hcurrent
          refine (Turn.leads_within _).mpr ?_
          unfold Inspection.start
          rcases handle.phase_cases hretired with hphase | ⟨status, hphase⟩ <;> rw [hphase]
          · exact hhandle
          · exact furnishes_inspected (u := ⟨s.deployment, s.launches, .polling handle⟩) hhandle hretired
              false

end Furnishes

end Operation

/-- No process is held, and none is being started, that the history does not tell to be furnished. -/
def Seat.Furnished (deployment : Deployment) (history : List (Event World)) : Seat → Prop
  | .vacant warden => ∀ handle, warden.current = some handle → handle.Furnished deployment history
  | .taken caller operation underway => underway.stage.Furnished deployment history caller operation
  | .closing discard => discard.handle.Furnished deployment history
  | .closed => True

theorem Seat.Furnished.of_handle? {deployment : Deployment} {history : List (Event World)} {seat : Seat}
    (h : seat.Furnished deployment history) {handle : Handle} (hhandle : seat.handle? = some handle) :
    handle.Furnished deployment history := by
  cases seat with
  | vacant warden => exact h handle hhandle
  | taken caller operation underway =>
      obtain ⟨program, launches, stage⟩ := underway
      cases stage with
      | stopping aim termination =>
          cases hhandle
          exact h.2
      | polling kept =>
          cases hhandle
          exact h
      | discarding discard =>
          cases hhandle
          exact h
      | _ => cases hhandle
  | closing discard =>
      cases hhandle
      exact h
  | closed => cases hhandle

namespace Shared

variable {behaviour : Behaviour World} {deployment : Deployment}

/-- Every process that was asked for was furnished. -/
def SpawnsFurnished (deployment : Deployment) (history : List (Event World)) : Prop :=
  ∀ caller command answer, .exchanged caller ⟨.spawn command, answer⟩ ∈ history →
    ∃ number time environment, caller = some number ∧ command = deployment.command environment ∧
      Supervisor.Furnished deployment history number time environment answer

/-- Every process that is held was furnished, and so was every one that was asked for. -/
structure Furnished (deployment : Deployment) (s : Shared World) : Prop where
  seat : s.seat.Furnished deployment s.history
  spawns : SpawnsFurnished deployment s.history

theorem seat_later {seat : Seat} {history : List (Event World)} (h : seat.Furnished deployment history)
    {event : Event World} (hevent : ∀ caller exchange, event ≠ .exchanged (some caller) exchange) :
    seat.Furnished deployment (event :: history) := by
  cases seat with
  | vacant warden => exact fun handle hcurrent => (h handle hcurrent).later event
  | taken caller operation underway => exact Operation.Stage.Furnished.later h (hevent caller)
  | closing discard => exact Handle.Furnished.later h event
  | closed => exact trivial

/-- An event that starts no process leaves all others as they were furnished. -/
theorem spawns_later {history : List (Event World)} {event : Event World}
    (h : SpawnsFurnished deployment history)
    (hevent : ∀ caller command answer, event ≠ .exchanged caller ⟨.spawn command, answer⟩) :
    SpawnsFurnished deployment (event :: history) := by
  intro caller command answer hmem
  rcases List.mem_cons.mp hmem with heq | hmem
  · exact absurd heq.symm (hevent caller command answer)
  · obtain ⟨number, time, environment, hcaller, hcommand, hfurnished⟩ := h caller command answer hmem
    exact ⟨number, time, environment, hcaller, hcommand, hfurnished.later event⟩

theorem Furnished.event {s : Shared World} (h : s.Furnished deployment) {event : Event World}
    (hevent : ∀ caller exchange, event ≠ .exchanged caller exchange)
    (waiting : List (Caller × Operation)) :
    Furnished deployment { s with waiting, history := event :: s.history } :=
  ⟨seat_later h.seat fun caller => hevent (some caller),
    spawns_later h.spawns fun caller command answer => hevent caller ⟨.spawn command, answer⟩⟩

theorem furnished_proceed {s : Shared World} {caller : Caller} {operation : Operation}
    (hspawns : SpawnsFurnished deployment s.history)
    {turn : Turn Operation.Underway Operation.Result}
    (h : Operation.Furnishes deployment s.history caller operation turn) :
    (s.proceed caller operation turn).Furnished deployment := by
  cases turn with
  | goOn entries next => exact ⟨h, hspawns⟩
  | finish entries result =>
      have hvacant : Furnished deployment { s with seat := .vacant result.1 } := ⟨h, hspawns⟩
      exact hvacant.event (by simp) s.waiting

theorem furnished_letGo {s : Shared World} (hspawns : SpawnsFurnished deployment s.history)
    {turn : Turn Discard Unit}
    (h : turn.Leads (fun next => next.handle.Furnished deployment s.history) (fun _ => True)) :
    (s.letGo turn).Furnished deployment := by
  cases turn with
  | goOn entries next => exact ⟨h, hspawns⟩
  | finish entries result => exact ⟨trivial, hspawns⟩

/-- The process that an exchange asks for is furnished. -/
theorem spawns_exchange {s : Shared World} {caller : Caller} {operation : Operation}
    {underway : Operation.Underway} (hcalled : .called caller operation ∈ s.history)
    (hstage : underway.stage.Furnished deployment s.history caller operation)
    (h : s.Furnished deployment) (answer : underway.call.Answer) :
    SpawnsFurnished deployment (.exchanged (some caller) ⟨underway.call, answer⟩ :: s.history) := by
  by_cases hspawn : underway.call.IsSpawn
  · intro other command found hmem
    rcases List.mem_cons.mp hmem with heq | hmem
    · injection heq with hother hexchange
      obtain ⟨program, launches, stage⟩ := underway
      have hcall : Operation.Underway.call ⟨program, launches, stage⟩ = .spawn command :=
        (congrArg Exchange.call hexchange).symm
      cases stage with
      | launching launch =>
          obtain ⟨program', environment, time, stage⟩ := launch
          cases stage with
          | spawning =>
              obtain ⟨rfl, hasks, earlier, inherited, henvironment, hexchanges⟩ := hstage
              cases hcall
              cases hexchange
              exact ⟨caller, time, environment, hother, rfl,
                .of_inherited hcalled hasks henvironment hexchanges _⟩
          | stamping pid => cases hcall
      | stopping aim termination => exact absurd ⟨command, hcall⟩ termination.call_not_spawn
      | discarding discard => exact absurd ⟨command, hcall⟩ discard.call_not_spawn
      | inheriting time => cases hcall
      | polling handle => cases hcall
    · obtain ⟨number, time, environment, hcaller, hcommand, hfurnished⟩ :=
        h.spawns other command found hmem
      exact ⟨number, time, environment, hcaller, hcommand, hfurnished.later _⟩
  · refine spawns_later h.spawns ?_
    intro other command found heq
    injection heq with _ hexchange
    exact hspawn ⟨command, congrArg Exchange.call hexchange⟩

theorem Step.furnished {s s' : Shared World} (hstep : Step behaviour s s')
    (hs : Reachable behaviour deployment s) (h : s.Furnished deployment) : s'.Furnished deployment := by
  have hsound := hs.sound
  have hpending := hs.attended
  cases hstep with
  | host acts => exact ⟨h.seat, h.spawns⟩
  | call opened fresh => exact h.event (by simp) _
  | refuse waits refused => exact h.event (by simp) _
  | giveUpWaiting waits => exact h.event (by simp) _
  | acquire waits asks vacant =>
      have hseat := h.seat
      rw [vacant] at hseat hsound
      rw [Operation.start_of_task asks]
      exact @furnished_proceed _ _ (s.leave _ _) _ _ h.spawns _
        (Operation.Task.furnishes_start hsound.1 hseat asks)
  | @exchange caller operation underway world taken answer answers =>
      have hseat := h.seat
      rw [taken] at hseat hsound
      rw [Attended, taken] at hpending
      have hcalled := hpending.called _ List.mem_cons_self
      exact furnished_proceed (spawns_exchange hcalled hseat h answer)
        (Operation.Underway.furnishes_receive hsound.1 hsound.2 hcalled hseat answer)
  | @giveUp caller operation underway taken suspended =>
      have hseat := h.seat
      rw [taken] at hseat
      have hvacant : Furnished deployment { s with seat := .vacant underway.interrupted } := by
        refine ⟨fun handle hcurrent => ?_, h.spawns⟩
        obtain ⟨program, launches, stage⟩ := underway
        cases stage with
        | stopping aim termination =>
            cases hcurrent
            exact hseat.2
        | polling handle =>
            cases hcurrent
            exact hseat
        | _ => cases hcurrent
      exact hvacant.event (by simp) s.waiting
  | @close warden vacant unused =>
      have hseat := h.seat
      rw [vacant] at hseat hsound
      refine furnished_letGo h.spawns ?_
      unfold Warden.drop
      cases hcurrent : warden.current with
      | none => exact trivial
      | some handle =>
          refine (Discard.start_sound (hsound.1 handle hcurrent)).imp ?_ (fun _ hfalse => hfalse.elim)
          rintro next ⟨-, hhandle, -⟩
          rw [hhandle]
          exact hseat handle hcurrent
  | @closing discard world closes answer answers =>
      have hseat := h.seat
      rw [closes] at hseat hsound
      refine furnished_letGo (spawns_later h.spawns ?_)
        ((Discard.receive_sound hsound answer).imp ?_ (fun _ _ => trivial))
      · intro other command found heq
        injection heq with _ hexchange
        exact discard.call_not_spawn ⟨command, congrArg Exchange.call hexchange⟩
      · rintro next ⟨-, hnext⟩
        rw [hnext]
        exact (Handle.Furnished.later hseat _).of_same (discard.handle.same_learn _)

theorem Reachable.furnished {s : Shared World} (h : Reachable behaviour deployment s) :
    s.Furnished deployment := by
  induction h with
  | begin => exact ⟨fun handle hcurrent => (by cases hcurrent), fun _ _ _ hmem => (by cases hmem)⟩
  | step hreachable hstep ih => exact hstep.furnished hreachable ih

/-- In every run, whatever is handed to a process, and kept in the handle of one, is the environment that
the same call has just been told, under the overlay for the fake time that it asks for; the overlay sets
its own variables and leaves all others. The block for an environment that was read from a block is read
back as what it was written from, and has no NUL unless the library brings it. -/
theorem environment_overlaid {s : Shared World} (h : Reachable behaviour deployment s) :
    (∀ caller command answer, .exchanged caller ⟨.spawn command, answer⟩ ∈ s.history →
      ∃ number operation time inherited,
        caller = some number ∧ .called number operation ∈ s.history ∧ operation.Asks time ∧
        command = deployment.command (deployment.overlay.apply inherited time) ∧
        [⟨.inherit, inherited⟩, ⟨.spawn command, answer⟩] <:+: exchangesOf s.history number) ∧
    (∀ handle, s.seat.handle? = some handle →
      ∃ caller operation inherited,
        .called caller operation ∈ s.history ∧ operation.Asks handle.fakeTime ∧
        handle.environment = deployment.overlay.apply inherited handle.fakeTime ∧
        [⟨.inherit, inherited⟩,
            ⟨.spawn (deployment.command handle.environment), (.ok handle.pid : Except Error Pid)⟩] <:+:
          exchangesOf s.history caller) ∧
    (∀ inherited time name, (deployment.overlay.apply inherited time).get? name =
      (deployment.overlay.value? time name).or (inherited.get? name)) ∧
    ∀ strings time,
      Environment.ofBlock (deployment.overlay.apply (.ofBlock strings) time).block =
        deployment.overlay.apply (.ofBlock strings) time ∧
      ((∀ string ∈ strings, 0 ∉ string) → 0 ∉ deployment.overlay.library →
        (∀ string ∈ (deployment.overlay.apply (.ofBlock strings) time).block, 0 ∉ string) ∧
        (deployment.command (deployment.overlay.apply (.ofBlock strings) time)).holdsNul =
          (deployment.command .empty).holdsNul) := by
  have hfurnished := h.furnished
  refine ⟨?_, ?_, deployment.overlay.get?_apply, ?_⟩
  · intro caller command answer hmem
    obtain ⟨number, time, environment, hcaller, rfl, operation, inherited, hcalled, hasks, rfl,
      hexchanges⟩ := hfurnished.spawns caller command answer hmem
    exact ⟨number, operation, time, inherited, hcaller, hcalled, hasks, rfl, hexchanges⟩
  · intro handle hhandle
    obtain ⟨caller, operation, inherited, hcalled, hasks, henvironment, hexchanges⟩ :=
      hfurnished.seat.of_handle? hhandle
    exact ⟨caller, operation, inherited, hcalled, hasks, henvironment, hexchanges⟩
  · intro strings time
    refine ⟨deployment.overlay.ofBlock_block_apply strings time, fun hstrings hlibrary => ?_⟩
    have hfree := deployment.overlay.holds_noNul_apply hstrings hlibrary time
    exact ⟨Environment.zero_notMem_block hfree, Deployment.holdsNul_command hfree deployment⟩

namespace Sample

/-- An environment with a fake time of its own. -/
def given : List Bytes := [Utf8.encode "FAKETIME=-1y", Utf8.encode "HOME=/"]

def givenHandle : Handle where
  pid := 7
  environment := Overlay.ambient ⟨Overlay.defaultLibrary⟩ (.ofBlock given)
  fakeTime := none
  startedAt := noon

theorem given_reaches :
    Reaches ProcessTable.truthfulHost .standard ⟨[{ pid := 7 }]⟩
      (.vacant ⟨.standard, some givenHandle, 1⟩) := by
  have h : Reaches ProcessTable.truthfulHost .standard {} (.vacant { deployment := .standard }) :=
    ⟨_, .begin, rfl, rfl⟩
  obtain ⟨caller, h⟩ := h.acquire .launchInitial rfl rfl
  have h := h.exchange (Environment.ofBlock given) ⟨rfl, trivial⟩ rfl
  have h := h.exchange (.ok 7 : Except Error Pid)
    ⟨⟨fun f hf => (by cases hf), rfl⟩, fun _ _ f hf => (by cases hf)⟩ rfl
  exact h.finish noon ⟨rfl, trivial⟩ rfl

end Sample

theorem environment_overlaid_given :
    ∃ s : Shared ProcessTable, Reachable ProcessTable.truthfulHost .standard s ∧
      s.seat.handle? = some Sample.givenHandle ∧
      Sample.givenHandle.environment.get? Overlay.fakeTimeName = some (Utf8.encode "-1y") ∧
      Environment.ofBlock Sample.givenHandle.environment.block = Sample.givenHandle.environment ∧
      ∃ caller inherited,
        Sample.givenHandle.environment = Deployment.standard.overlay.apply inherited none ∧
        [⟨.inherit, inherited⟩, ⟨.spawn (Deployment.standard.command Sample.givenHandle.environment),
            (.ok 7 : Except Error Pid)⟩] <:+: exchangesOf s.history caller := by
  obtain ⟨s, hs, -, hseat⟩ := Sample.given_reaches
  have hhandle : s.seat.handle? = some Sample.givenHandle := by rw [hseat]; rfl
  obtain ⟨-, hheld, -, hblock⟩ := environment_overlaid hs
  obtain ⟨caller, operation, inherited, -, -, henvironment, hexchanges⟩ := hheld _ hhandle
  exact ⟨s, hs, hhandle, by decide, (hblock Sample.given none).1, caller, inherited, henvironment,
    hexchanges⟩

end Shared

/-! ### A fake time that no string of a block can hold -/

namespace Sample

open Shared.Sample

def sleeper : Deployment where
  program := Utf8.encode "/bin/sleep"
  arguments := ["30"]
  directory := Utf8.encode "/"
  stopTimeout := .ofSeconds 5
  overlay := ⟨Overlay.defaultLibrary⟩

def world : Rehearsal.World := { date := noon }

theorem lookFor_sleeper {p : Rehearsal.Process} (h : p.directory = []) :
    ∃ location program, world.lookFor p sleeper.program = .ok (location, .program program) := by
  have hplain : world.filesFor p sleeper.program = world.files := by
    unfold Rehearsal.World.filesFor
    rw [h]
    exact if_neg (by decide)
  rw [Rehearsal.World.lookFor, hplain, h]
  exact ⟨_, _, rfl⟩

/-- A process is not started with a string that is too long. -/
theorem spawn_of_tooLong {environment : Environment}
    (hnul : (sleeper.command environment).holdsNul = false)
    (hlong : ∃ string ∈ environment.block, Rehearsal.stringLimit < string.length) :
    (world.spawn (sleeper.command environment)).1 = .error .argumentsTooLong := by
  have hdirectory : world.files.directory world.directory (sleeper.command environment).directory =
      .ok [] := (by decide +kernel : world.files.directory world.directory sleeper.directory = .ok [])
  have hstrings (arguments : List Bytes) :
      Rehearsal.areTooLong (arguments ++ environment.block) = true := by
    obtain ⟨string, hmem, hlength⟩ := hlong
    rw [Rehearsal.areTooLong, Bool.or_eq_true]
    exact Or.inl (List.any_eq_true.mpr
      ⟨string, List.mem_append_right arguments hmem, decide_eq_true hlength⟩)
  have hfails {p : Rehearsal.Process} (hp : p.directory = []) (he : p.environment = environment.block)
      (arguments : List Bytes) :
      world.execute p sleeper.program arguments = .error .argumentsTooLong := by
    obtain ⟨location, program, hfound⟩ := lookFor_sleeper hp
    rw [Rehearsal.World.execute, Rehearsal.World.executeAlong, if_pos (by decide),
      Rehearsal.scriptDepth, Rehearsal.World.load, hfound]
    change (if Rehearsal.areTooLong (arguments ++ p.environment) then _ else _) = _
    rw [he, if_pos (hstrings arguments)]
  simp only [Rehearsal.World.spawn, hnul, Bool.false_eq_true, if_false, hdirectory, bind, Except.bind]
  rw [show (sleeper.command environment).program = sleeper.program from rfl, hfails rfl rfl]

/-- A letter, `n` times and once more. -/
def repeated (n : Nat) : FakeTime where
  text := String.ofList (List.replicate (n + 1) 'a')
  nonempty h := by simpa [List.replicate_succ] using congrArg String.toList h
  noNul h := by simp at h

theorem lt_length_encode_repeated (n : Nat) : n < (Utf8.encode (repeated n).text).length := by
  have hlength := Utf8.length_le_encode (repeated n).text
  simp only [repeated, String.toList_ofList, List.length_replicate] at hlength
  exact hlength

/-- A fake time that is too long for a string of a block. -/
def overlong : FakeTime := repeated Rehearsal.stringLimit

/-- The binding of a fake time makes a string that is longer than the fake time. -/
theorem exists_entry_gt (overlay : Overlay) (base : Environment) (n : Nat) :
    ∃ string ∈ (overlay.apply base (some (repeated n))).block, n < string.length := by
  have hmem : (Overlay.fakeTimeName, Utf8.encode (repeated n).text) ∈
      (overlay.apply base (some (repeated n))).entries := Environment.mem_insertBinding_self _ _ _
  refine ⟨_, List.mem_map_of_mem hmem, ?_⟩
  have hlength := lt_length_encode_repeated n
  simp only [List.length_append, List.length_cons]
  omega

end Sample

/-- Without a fake time the process starts; with one that is accepted, and a library without NUL, the
environment makes the start fail. -/
theorem environment_not_always_handed_over :
    0 ∉ Sample.sleeper.overlay.library ∧
      FakeTime.ofText Sample.overlong.text = .ok Sample.overlong ∧
      (Sample.world.spawn (Sample.sleeper.command
        (Sample.sleeper.overlay.apply Sample.world.environment none))).1 = .ok 100001 ∧
      (Sample.world.spawn (Sample.sleeper.command
        (Sample.sleeper.overlay.apply Sample.world.environment (some Sample.overlong)))).1 =
          .error .argumentsTooLong := by
  have hnone : ∀ string ∈ ([] : List Bytes), 0 ∉ string := fun string hstring => by cases hstring
  have hfree := Sample.sleeper.overlay.holds_noNul_apply hnone (by decide) (some Sample.overlong)
  have hnul : (Sample.sleeper.command (Sample.sleeper.overlay.apply Sample.world.environment
      (some Sample.overlong))).holdsNul = false := by
    rw [show Sample.world.environment = Environment.ofBlock [] from rfl,
      Deployment.holdsNul_command hfree]
    decide
  refine ⟨by decide, ?_, by decide +kernel, Sample.spawn_of_tooLong hnul (Sample.exists_entry_gt _ _ _)⟩
  rw [FakeTime.ofText, dif_neg Sample.overlong.nonempty, dif_neg Sample.overlong.noNul]

end ClockWarden.Supervisor
