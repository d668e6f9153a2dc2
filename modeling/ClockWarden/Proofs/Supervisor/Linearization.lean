import ClockWarden.Proofs.Supervisor.Calls
import ClockWarden.Proofs.Supervisor.SingleInstance

/-! The calls on a shared supervisor act one after another. An account knows only the process that was
launched last and how many launches there were, and each completed call is one step of it, in the order
in which the calls were answered; a status tells exactly what the account says and whether the leader
has ended (`linearizable`). -/

namespace ClockWarden.Supervisor

open Host

/-- What a launch leaves to be told. -/
structure Launched where
  pid : Pid
  fakeTime : Option FakeTime
  startedAt : Calendar.Timestamp

/-- What there is to know about a supervisor between its calls: the process that was launched last, as
long as no call has removed it, and how many launches there were. -/
structure Account where
  process : Option Launched := none
  launches : Nat := 0

namespace Account

/-- The process of an account, if it has one, has ended. -/
def Gone (account : Account) (table : ProcessTable) : Prop :=
  ∀ process, account.process = some process → table.Newest process.pid true

/-- A completed call as one step of an account. -/
inductive Step (history : List (Event ProcessTable)) :
    Completion ProcessTable → Account → Account → Prop
  | refused {caller : Caller} {request : Option String} {refusal : FakeTime.Refusal}
      {table : ProcessTable} {account : Account}
      (unusable : ∀ time, ¬(Operation.restartWith request).Asks time) :
      Step history ⟨caller, .restartWith request, .refused refusal, table⟩ account account
  /-- A launch replaces the process; the date was read by the call itself. -/
  | launched {caller : Caller} {operation : Operation} {time : Option FakeTime} {pid : Pid}
      {startedAt : Calendar.Timestamp} {table : ProcessTable} {account : Account}
      (asks : operation.Asks time)
      (stamped : .exchanged (some caller) ⟨.readDate, startedAt⟩ ∈ history) :
      Step history ⟨caller, operation, .launched (.ok ⟨time, pid⟩), table⟩ account
        ⟨some ⟨pid, time, startedAt⟩, account.launches + 1⟩
  | notLaunched {caller : Caller} {operation : Operation} {time : Option FakeTime} {program : String}
      {cause : Error} {table : ProcessTable} {account : Account} (asks : operation.Asks time) :
      Step history ⟨caller, operation, .launched (.error (.launch program cause)), table⟩ account
        ⟨none, account.launches⟩
  | stopped {caller : Caller} {table : ProcessTable} {account : Account} :
      Step history ⟨caller, .shutdown, .stopped (.ok ()), table⟩ account ⟨none, account.launches⟩
  /-- A call that cannot stop the process, or breaks off before it tries. -/
  | notStopped {caller : Caller} {operation : Operation} {reply : Operation.Reply}
      {table : ProcessTable} {account : Account} {process : Launched}
      (managed : account.process = some process) (fails : operation.FailsToStop reply) :
      Step history ⟨caller, operation, reply, table⟩ account account
  | running {caller : Caller} {table : ProcessTable} {account : Account} {process : Launched}
      (managed : account.process = some process) (lives : table.Newest process.pid false) :
      Step history
        ⟨caller, .tellStatus,
          .told ⟨true, some process.pid, process.fakeTime.map (·.text), some process.startedAt,
            .ofNat account.launches⟩,
          table⟩
        account account
  | notRunning {caller : Caller} {table : ProcessTable} {account : Account} (gone : account.Gone table) :
      Step history ⟨caller, .tellStatus, .told ⟨false, none, none, none, .ofNat account.launches⟩, table⟩
        account account

/-- Completed calls, one after another, from one account to another. -/
inductive Run (history : List (Event ProcessTable)) :
    Account → List (Completion ProcessTable) → Account → Prop
  | nil {account : Account} : Run history account [] account
  | cons {completion : Completion ProcessTable} {order : List (Completion ProcessTable)}
      {account next last : Account} (first : Step history completion account next)
      (rest : Run history next order last) : Run history account (completion :: order) last

variable {history : List (Event ProcessTable)} {completion : Completion ProcessTable}
  {order : List (Completion ProcessTable)} {account next last : Account}

theorem Step.later (h : Step history completion account next) (event : Event ProcessTable) :
    Step (event :: history) completion account next := by
  cases h with
  | refused unusable => exact .refused unusable
  | launched asks stamped => exact .launched asks (List.mem_cons_of_mem _ stamped)
  | notLaunched asks => exact .notLaunched asks
  | stopped => exact .stopped
  | notStopped managed fails => exact .notStopped managed fails
  | running managed lives => exact .running managed lives
  | notRunning gone => exact .notRunning gone

theorem Run.later (h : Run history account order last) (event : Event ProcessTable) :
    Run (event :: history) account order last := by
  induction h with
  | nil => exact .nil
  | cons first _ ih => exact .cons (first.later event) ih

theorem Run.snoc (h : Run history account order next) (hstep : Step history completion next last) :
    Run history account (order ++ [completion]) last := by
  induction h with
  | nil => exact .cons hstep .nil
  | cons first _ ih => exact .cons first (ih hstep)

theorem Gone.acts {table table' : ProcessTable} (h : account.Gone table)
    (hacts : ProcessTable.host.acts table table') : account.Gone table' :=
  fun process hprocess => (h process hprocess).acts hacts

end Account

def Handle.launched (h : Handle) : Launched := ⟨h.pid, h.fakeTime, h.startedAt⟩

theorem Handle.Same.launched {h g : Handle} (hsame : h.Same g) : h.launched = g.launched := by
  obtain ⟨hpid, -, htime, hstarted⟩ := hsame
  rw [Handle.launched, Handle.launched, hpid, htime, hstarted]

/-- A supervisor that nobody has stands as an account says. -/
def Warden.Shows (s : Warden) (account : Account) (table : ProcessTable) : Prop :=
  s.launches = .ofNat account.launches ∧
  match s.current with
  | some handle => account.process = some handle.launched
  | none => account.Gone table

namespace Operation

/-- An aim is that of an operation. -/
def Aim.Serves (aim : Aim) (operation : Operation) : Prop :=
  match aim with
  | .launch time => operation.Asks time
  | .stop => operation = .shutdown

theorem Aim.serves_of_task {operation : Operation} {aim : Aim} (h : operation.task = .ok (.pursue aim)) :
    aim.Serves operation := by
  cases aim with
  | launch time => exact asks_of_task h
  | stop => exact eq_shutdown_of_task h

/-- A stage of an operation stands as an account says. Once the old process is out of the way, the
account is not looked at any more. -/
def Stage.Shows (operation : Operation) (account : Account) : Stage → Prop
  | .stopping aim termination =>
    aim.Serves operation ∧ account.process = some termination.handle.launched
  | .inheriting time => operation.Asks time
  | .launching launch => operation.Asks launch.fakeTime
  | .polling handle => operation = .tellStatus ∧ account.process = some handle.launched
  | .discarding discard => operation = .tellStatus ∧ account.process = some discard.handle.launched

def Underway.Shows (u : Underway) (operation : Operation) (account : Account) : Prop :=
  u.launches = .ofNat account.launches ∧ u.stage.Shows operation account

/-- What a turn of a call leads to stands as an account says, if the call is not completed, and as the
next account says, if it is. -/
def Advances (history : List (Event ProcessTable)) (table : ProcessTable) (caller : Caller)
    (operation : Operation) (account : Account) (turn : Turn Underway Result) : Prop :=
  turn.Leads (fun next => next.Shows operation account)
    (fun result => ∃ next, Account.Step history ⟨caller, operation, result.2, table⟩ account next ∧
      result.1.Shows next table)

section Advances

variable {history : List (Event ProcessTable)} {table : ProcessTable} {caller : Caller}
  {operation : Operation} {account : Account} {u : Underway}

theorem advances_vacated {aim : Aim} (hserves : aim.Serves operation)
    (hlaunches : u.launches = .ofNat account.launches) :
    Advances history table caller operation account (u.vacated aim) := by
  cases aim with
  | launch time => exact ⟨hlaunches, hserves⟩
  | stop =>
      obtain rfl : operation = .shutdown := hserves
      exact ⟨_, .stopped, hlaunches, fun process hprocess => (by cases hprocess)⟩

theorem advances_retired {aim : Aim} (hserves : aim.Serves operation)
    (hlaunches : u.launches = .ofNat account.launches) {handle : Handle}
    (hprocess : account.process = some handle.launched) {result : Termination.Result}
    (h : Termination.Leaves handle result) :
    Advances history table caller operation account (u.retired aim result) := by
  obtain ⟨left, outcome⟩ := result
  have hleft : account.process = some left.launched := by rw [hprocess, h.1.launched]
  cases outcome with
  | stopped status => exact (Turn.leads_after _ _).mpr (advances_vacated hserves hlaunches)
  | failed failure =>
      have hfails : operation.FailsToStop (aim.failed failure) := by
        cases aim with
        | launch time => exact ⟨⟨time, hserves⟩, h.2.2⟩
        | stop => exact ⟨hserves, h.2.2⟩
      exact ⟨account, .notStopped hleft hfails, hlaunches, hleft⟩
  | overflowed =>
      have hfails : operation.FailsToStop .overflowed := by
        cases aim with
        | launch time => exact Or.inl ⟨time, hserves⟩
        | stop => exact Or.inr hserves
      exact ⟨account, .notStopped hleft hfails, hlaunches, hleft⟩

/-- A launch that has come to its end has started the process, or has failed. -/
theorem advances_launching {launch : Launch} (hasks : operation.Asks launch.fakeTime)
    (hlaunches : u.launches = .ofNat account.launches) (answer : launch.call.Answer)
    (hhistory : .exchanged (some caller) ⟨launch.call, answer⟩ ∈ history) :
    Advances history table caller operation account
      ((launch.receive answer).within (fun l => { u with stage := .launching l }) u.launched) := by
  obtain ⟨deployment, environment, time, stage⟩ := launch
  cases stage with
  | spawning =>
      rcases answer with cause | pid
      · exact ⟨_, .notLaunched hasks, hlaunches, fun process hprocess => (by cases hprocess)⟩
      · exact ⟨hlaunches, hasks⟩
  | stamping pid =>
      refine ⟨_, .launched hasks hhistory, ?_, rfl⟩
      change u.launches + 1 = _
      rw [hlaunches, UInt64.ofNat_add]
      rfl

/-- A process that runs is told about; one that has ended is let go of first. -/
theorem advances_inspected {handle : Handle} {found : Option ExitStatus}
    (hphase : handle.phase = .unreaped) (hlaunches : u.launches = .ofNat account.launches)
    (hprocess : account.process = some handle.launched)
    (hlives : found = none → table.Newest handle.pid false) :
    Advances history table caller .tellStatus account (u.inspected (handle.inspected (.ok found))) := by
  cases found with
  | none =>
      refine ⟨account, ?_, hlaunches, hprocess⟩
      have htold : statusOf (some handle) u.launches = ⟨true, some handle.launched.pid,
          handle.launched.fakeTime.map (·.text), some handle.launched.startedAt,
          .ofNat account.launches⟩ := by
        rw [statusOf, hlaunches]
        rfl
      change Account.Step history
        ⟨caller, .tellStatus, .told (statusOf (some handle) u.launches), table⟩ _ _
      rw [htold]
      exact .running hprocess (hlives rfl)
  | some status =>
      rw [Handle.inspected_of_unreaped hphase]
      exact ⟨hlaunches, rfl, hprocess⟩

theorem advances_toldEmpty (hlaunches : u.launches = .ofNat account.launches)
    (hgone : account.Gone table) :
    Advances history table caller .tellStatus account u.toldEmpty := by
  refine ⟨account, ?_, hlaunches, hgone⟩
  change Account.Step history ⟨caller, .tellStatus, .told (statusOf none u.launches), table⟩ _ _
  rw [hlaunches]
  exact .notRunning hgone

end Advances

theorem Underway.receive_advances {u : Underway} (hsound : u.stage.Sound) (hcertain : u.stage.Certain)
    {operation : Operation} {account : Account} (h : u.Shows operation account)
    {table table' : ProcessTable} (hagrees : table.Agrees u.stage.custody) (answer : u.call.Answer)
    (hanswers : table.Answers table' u.call answer) {history : List (Event ProcessTable)}
    {caller : Caller} (hhistory : .exchanged (some caller) ⟨u.call, answer⟩ ∈ history) :
    Advances history table' caller operation account (u.receive answer) := by
  have hpoll := not_pollFails hsound hcertain hagrees hanswers
  obtain ⟨deployment, launches, stage⟩ := u
  obtain ⟨hlaunches, hstage⟩ := h
  cases stage with
  | stopping aim termination =>
      refine (Turn.leads_within _).mpr ((Termination.receive_leads hsound answer).imp ?_ ?_)
      · rintro next ⟨-, hhandle⟩
        refine ⟨hlaunches, hstage.1, ?_⟩
        rw [hhandle, (termination.handle.same_learn _).launched]
        exact hstage.2
      · exact fun result hends => advances_retired hstage.1 hlaunches hstage.2 (hends.leaves hsound)
  | inheriting time => exact ⟨hlaunches, hstage⟩
  | launching launch => exact advances_launching hstage hlaunches answer hhistory
  | polling handle =>
      obtain ⟨rfl, hprocess⟩ := hstage
      refine (Turn.leads_after [] (inspected _ (handle.inspected answer))).mpr ?_
      rcases answer with cause | found
      · exact absurd ⟨handle.pid, cause, rfl⟩ hpoll
      · refine advances_inspected hsound hlaunches hprocess ?_
        rintro rfl
        rw [show table' = table from hanswers.2]
        exact ProcessTable.Agrees.newest_of_running hagrees hanswers.1
  | discarding discard =>
      obtain ⟨rfl, hprocess⟩ := hstage
      obtain ⟨status, hphase⟩ := hcertain
      obtain ⟨handle, stage⟩ := discard
      obtain rfl : stage = .killing := Discard.stage_of_reaped hsound hphase
      have hagrees' : table'.Agrees (some handle.custody) :=
        ProcessTable.Agrees.answers hagrees hanswers
          (fun hcall => absurd hcall (Discard.call_not_spawn ⟨handle, .killing⟩))
          (fun pid hcall => (by cases hcall))
      have hreaped : handle.custody.status?.isSome := by
        simp only [Handle.custody, show handle.phase = _ from hphase, Phase.status?, Option.isSome_some]
      refine (Turn.leads_within (Discard.killed handle)).mpr ?_
      rw [Discard.killed_of_reaped hphase]
      refine advances_toldEmpty hlaunches ?_
      intro process hmanaged
      rw [hprocess] at hmanaged
      cases hmanaged
      exact hagrees'.newest_of_reaped hreaped

/-- The first turn of a call stands as the account says that the supervisor stood before. -/
theorem Task.start_advances {s : Warden} (hsound : s.Sound) {account : Account} {table : ProcessTable}
    (h : s.Shows account table) {operation : Operation} {task : Task} (asks : operation.task = .ok task)
    (history : List (Event ProcessTable)) (caller : Caller) :
    Advances history table caller operation account (task.start s) := by
  obtain ⟨hlaunches, hcurrent⟩ := h
  cases task with
  | pursue aim =>
      have hserves := Aim.serves_of_task asks
      unfold Task.start
      cases hs : s.current with
      | none =>
          rw [hs] at hcurrent
          cases aim with
          | launch time => exact ⟨hlaunches, hserves⟩
          | stop =>
              obtain rfl : operation = .shutdown := hserves
              refine ⟨_, .stopped, hlaunches, ?_⟩
              rw [hs]
              exact fun process hprocess => (by cases hprocess)
      | some handle =>
          rw [hs] at hcurrent
          exact ⟨hlaunches, hserves, hcurrent⟩
  | tell =>
      obtain rfl := eq_tellStatus_of_task asks
      unfold Task.start
      cases hs : s.current with
      | none =>
          rw [hs] at hcurrent
          refine ⟨account, ?_, hlaunches, ?_⟩
          · change Account.Step history
              ⟨caller, .tellStatus, .told (statusOf none s.launches), table⟩ _ _
            rw [hlaunches]
            exact .notRunning hcurrent
          · rw [hs]
            exact hcurrent
      | some handle =>
          rw [hs] at hcurrent
          refine (Turn.leads_within _).mpr ?_
          unfold Inspection.start
          rcases handle.phase_cases (hsound handle hs) with hphase | ⟨status, hphase⟩ <;> rw [hphase]
          · exact ⟨hlaunches, rfl, hcurrent⟩
          · refine (Turn.leads_after _ _).mpr ((Turn.leads_within _).mpr ?_)
            simp only [Discard.start, hphase]
            exact ⟨hlaunches, rfl, hcurrent⟩

/-- A call that is given up leaves the supervisor as it was. -/
theorem Underway.shows_interrupted {u : Underway} (hsuspended : u.call.suspends = true)
    {operation : Operation} {account : Account} (h : u.Shows operation account) (table : ProcessTable) :
    u.interrupted.Shows account table := by
  obtain ⟨deployment, launches, stage⟩ := u
  cases stage with
  | stopping aim termination => exact ⟨h.1, h.2.2⟩
  | launching launch =>
      obtain ⟨program, environment, time, stage⟩ := launch
      cases stage <;> cases hsuspended
  | discarding discard =>
      obtain ⟨handle, stage⟩ := discard
      cases stage <;> cases hsuspended
  | _ => cases hsuspended

end Operation

/-- Whoever has a supervisor stands as an account says. -/
def Seat.Shows (account : Account) (table : ProcessTable) : Seat → Prop
  | .vacant warden => warden.Shows account table
  | .taken _ operation underway => underway.Shows operation account
  | .closing _ | .closed => True

namespace Shared

/-- The completed calls are a run of an account, and the supervisor stands as it says. -/
def Linear (s : Shared ProcessTable) : Prop :=
  ∃ account, Account.Run s.history {} (completions s.history).reverse account ∧
    s.seat.Shows account s.world

/-- An event that completes no call keeps the run. -/
theorem run_event {history : List (Event ProcessTable)} {account : Account}
    (h : Account.Run history {} (completions history).reverse account) {event : Event ProcessTable}
    (hevent : event.returned? = none) :
    Account.Run (event :: history) {} (completions (event :: history)).reverse account := by
  rw [show completions (event :: history) = completions history from List.filterMap_cons_none hevent]
  exact h.later event

/-- The answer to a call is one more step. -/
theorem run_returned {history : List (Event ProcessTable)} {account next : Account}
    (h : Account.Run history {} (completions history).reverse account) {caller : Caller}
    {operation : Operation} {reply : Operation.Reply} {table : ProcessTable}
    (hstep : Account.Step history ⟨caller, operation, reply, table⟩ account next) :
    Account.Run (.returned caller operation reply table :: history) {}
      (completions (.returned caller operation reply table :: history)).reverse next := by
  rw [show completions (.returned caller operation reply table :: history) =
    ⟨caller, operation, reply, table⟩ :: completions history from rfl, List.reverse_cons]
  exact (h.later _).snoc (hstep.later _)

theorem linear_proceed {s : Shared ProcessTable} {caller : Caller} {operation : Operation}
    {account : Account} (hrun : Account.Run s.history {} (completions s.history).reverse account)
    {turn : Turn Operation.Underway Operation.Result}
    (h : Operation.Advances s.history s.world caller operation account turn) :
    (s.proceed caller operation turn).Linear := by
  cases turn with
  | goOn entries next => exact ⟨account, hrun, h⟩
  | finish entries result =>
      obtain ⟨next, hstep, hshows⟩ := h
      exact ⟨next, run_returned hrun hstep, hshows⟩

theorem shows_acts {seat : Seat} {account : Account} {table table' : ProcessTable}
    (h : seat.Shows account table) (hacts : ProcessTable.host.acts table table') :
    seat.Shows account table' := by
  cases seat with
  | vacant warden =>
      obtain ⟨hlaunches, hcurrent⟩ := h
      refine ⟨hlaunches, ?_⟩
      cases hs : warden.current with
      | none =>
          rw [hs] at hcurrent
          exact Account.Gone.acts hcurrent hacts
      | some handle =>
          rw [hs] at hcurrent
          exact hcurrent
  | _ => exact h

theorem Step.linear {deployment : Deployment} {s s' : Shared ProcessTable}
    (hstep : Step ProcessTable.host s s') (hsound : s.seat.Sound deployment) (hsettled : s.Settled)
    (h : s.Linear) : s'.Linear := by
  obtain ⟨account, hrun, hshows⟩ := h
  cases hstep with
  | host acts => exact ⟨account, hrun, shows_acts hshows acts⟩
  | call opened fresh => exact ⟨account, run_event hrun rfl, hshows⟩
  | giveUpWaiting waits => exact ⟨account, run_event hrun rfl, hshows⟩
  | refuse waits refused =>
      obtain ⟨request, rfl, hunusable⟩ := Operation.unusable_of_task refused
      exact ⟨account, run_returned hrun (.refused hunusable), hshows⟩
  | @acquire caller operation task warden waits asks vacant =>
      rw [vacant] at hshows hsound
      rw [Operation.start_of_task asks]
      have hadvances := Operation.Task.start_advances hsound.1 hshows asks s.history caller
      exact @linear_proceed (s.leave caller operation) _ _ _ hrun _ hadvances
  | @exchange caller operation underway world taken answer answers =>
      obtain ⟨hcertain, hagrees, -⟩ := hsettled
      rw [taken] at hshows hsound hcertain hagrees
      exact linear_proceed (run_event hrun rfl)
        (Operation.Underway.receive_advances hsound.1 hcertain hshows (hagrees (by simp)) answer answers
          List.mem_cons_self)
  | giveUp taken suspended =>
      rw [taken] at hshows
      exact ⟨account, run_event hrun rfl,
        Operation.Underway.shows_interrupted suspended hshows s.world⟩
  | @close warden vacant unused =>
      refine ⟨account, ?_, ?_⟩
      · cases hdrop : warden.drop <;> exact hrun
      · cases hdrop : warden.drop <;> exact trivial
  | @closing discard world closes answer answers =>
      refine ⟨account, ?_, ?_⟩
      · cases hreceive : discard.receive answer <;> exact run_event hrun rfl
      · cases hreceive : discard.receive answer <;> exact trivial

theorem Reachable.linear {deployment : Deployment} {s : Shared ProcessTable}
    (h : Reachable ProcessTable.host deployment s) : s.Linear := by
  induction h with
  | begin => exact ⟨{}, .nil, rfl, fun process hprocess => (by cases hprocess)⟩
  | step hreachable hstep ih => exact hstep.linear hreachable.sound hreachable.settled ih

/-- The completed calls of every run have an order in which calls that do not overlap stand as they
were made and each call is one step of an account, and a supervisor that nobody has stands as that
account says in the end. -/
theorem linearizable {deployment : Deployment} {s : Shared ProcessTable}
    (h : Reachable ProcessTable.host deployment s) :
    ∃ order : List (Completion ProcessTable),
      order.Perm (completions s.history) ∧ (order.map Completion.caller).Nodup ∧
      (∀ completion ∈ order, .called completion.caller completion.operation ∈ s.history) ∧
      (∀ first ∈ order, ∀ second ∈ order,
        Precedes s.history first.caller second.caller → [first, second].Sublist order) ∧
      ∃ account, Account.Run s.history {} order account ∧
        ∀ warden, s.seat = .vacant warden → warden.Shows account s.world := by
  have horderly := h.attended.orderly
  obtain ⟨account, hrun, hshows⟩ := h.linear
  refine ⟨(completions s.history).reverse, List.reverse_perm _, ?_, ?_, ?_, account, hrun, ?_⟩
  · rw [List.map_reverse]
    exact List.pairwise_reverse.mpr (horderly.nodup.imp Ne.symm)
  · exact fun completion hmem => horderly.called (List.mem_reverse.mp hmem)
  · intro first hfirst second hsecond hprecedes
    exact (horderly.sublist_of_precedes (List.mem_reverse.mp hfirst) (List.mem_reverse.mp hsecond)
      hprecedes).reverse
  · intro warden hseat
    rw [hseat] at hshows
    exact hshows

theorem linearizable_replaced :
    ∃ s : Shared ProcessTable, Reachable ProcessTable.host .standard s ∧
      s.seat = .vacant ⟨.standard, some Sample.secondHandle, 2⟩ ∧
      ∃ order account, order.Perm (completions s.history) ∧ Account.Run s.history {} order account ∧
        account.process = some ⟨8, some Sample.nextDay, Sample.noon⟩ := by
  obtain ⟨s, hs, -, hseat⟩ := Sample.replaced_reaches
  obtain ⟨order, hperm, -, -, -, account, hrun, hshows⟩ := linearizable hs.of_truthful
  exact ⟨s, hs.of_truthful, hseat, order, account, hperm, hrun, (hshows _ hseat).2⟩

end Shared

end ClockWarden.Supervisor
