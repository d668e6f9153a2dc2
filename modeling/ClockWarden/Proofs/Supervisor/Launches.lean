import ClockWarden.Proofs.Supervisor.Inheritance
import ClockWarden.Proofs.Supervisor.Linearization
import ClockWarden.Proofs.Supervisor.Outcome

/-! Launches and what is told about them. A call that confirms a launch has started one process, under
the fake time that it asks for (`Reachable.spawnedOnce`); from then on every status tells of this process
as long as it runs and no other call has displaced it (`Reachable.told_of_current`), and counts the
launches that were confirmed before (`Reachable.told_launches`). -/

namespace ClockWarden.Supervisor

open Host

namespace Operation.Reply

/-- An answer that confirms a launch. -/
def isLaunch : Reply → Bool
  | .launched (.ok _) => true
  | _ => false

/-- An answer that leaves nothing of the process that was managed before. -/
def displaces : Reply → Bool
  | .launched (.ok _) | .launched (.error (.launch _ _)) | .stopped (.ok _) => true
  | _ => false

end Operation.Reply

variable {World : Type}

/-- How many of the completed calls have confirmed a launch. -/
def launchCount (completed : List (Completion World)) : Nat := completed.countP (·.reply.isLaunch)

/-- When a call was answered, no other one had displaced the process that an earlier one had launched. -/
def Current (history : List (Event World)) (launch later : Completion World) : Prop :=
  ∃ newer between older, completions history = newer ++ later :: (between ++ launch :: older) ∧
    ∀ other ∈ between, other.reply.displaces = false

/-- A call has started one process, with an environment, and no other one. -/
def SpawnedOnce (history : List (Event World)) (caller : Caller) (pid : Pid)
    (environment : Environment) : Prop :=
  ∃ before command after,
    exchangesOf history caller = before ++ ⟨.spawn command, (.ok pid : Except Error Pid)⟩ :: after ∧
      (∀ exchange ∈ before ++ after, ¬exchange.call.IsSpawn) ∧ command.environment = environment

theorem Operation.Asks.unique {operation : Operation} {time time' : Option FakeTime}
    (h : operation.Asks time) (h' : operation.Asks time') : time = time' := by
  have htask := task_of_asks h
  rw [task_of_asks h'] at htask
  cases htask
  rfl

namespace Account

variable {history : List (Event ProcessTable)} {completion : Completion ProcessTable}
  {order rest : List (Completion ProcessTable)} {account next last : Account}

theorem Run.of_append (h : Run history account (order ++ rest) last) :
    ∃ next, Run history account order next ∧ Run history next rest last := by
  induction order generalizing account with
  | nil => exact ⟨account, .nil, h⟩
  | cons completion order ih =>
      cases h with
      | cons first hrest =>
          obtain ⟨next, horder, hrest⟩ := ih hrest
          exact ⟨next, .cons first horder, hrest⟩

/-- A launch is counted when it is confirmed, and nothing else is. -/
theorem Step.launches_eq (h : Step history completion account next) :
    next.launches = account.launches + launchCount [completion] := by
  cases h with
  | @notStopped caller operation reply table account process managed fails =>
      have hcount : reply.isLaunch = false := by
        cases reply with
        | launched result => cases result <;> first | rfl | exact fails.elim
        | _ => rfl
      simp [launchCount, hcount]
  | _ => simp [launchCount, Operation.Reply.isLaunch, Operation.Reply.refused]

theorem Run.launches_eq (h : Run history account order last) :
    last.launches = account.launches + launchCount order := by
  induction h with
  | nil => rfl
  | @cons completion order account next last first _ ih =>
      rw [ih, first.launches_eq, Nat.add_assoc, launchCount, launchCount, launchCount,
        ← List.countP_append, List.singleton_append]

theorem Step.process_eq (h : Step history completion account next)
    (hkeeps : completion.reply.displaces = false) : next.process = account.process := by
  cases h <;> first | rfl | cases hkeeps

theorem Run.process_eq (h : Run history account order last)
    (hkeeps : ∀ completion ∈ order, completion.reply.displaces = false) :
    last.process = account.process := by
  induction h with
  | nil => rfl
  | cons first _ ih =>
      rw [ih fun completion hmem => hkeeps completion (List.mem_cons_of_mem _ hmem),
        first.process_eq (hkeeps _ List.mem_cons_self)]

/-- A confirmed launch has done what its call asks for, and its process is the last one. -/
theorem Step.of_launched {time : Option FakeTime} {pid : Pid} (h : Step history completion account next)
    (hreply : completion.reply = .launched (.ok ⟨time, pid⟩)) :
    completion.operation.Asks time ∧ ∃ startedAt, next.process = some ⟨pid, time, startedAt⟩ := by
  cases h with
  | launched asks stamped =>
      cases hreply
      exact ⟨asks, _, rfl⟩
  | notStopped managed fails =>
      cases hreply
      exact fails.elim
  | _ => cases hreply

/-- A status tells of the process of an account if it runs. -/
theorem Step.of_told {told : Status} (h : Step history completion account next)
    (hreply : completion.reply = .told told) :
    told.launches = .ofNat account.launches ∧
      ∀ process, account.process = some process → completion.world.Newest process.pid false →
        told.running = true ∧ told.pid = some process.pid ∧
          told.fakeTime = process.fakeTime.map (·.text) := by
  cases h with
  | running managed lives =>
      cases hreply
      refine ⟨rfl, fun process hprocess _ => ?_⟩
      rw [managed] at hprocess
      cases hprocess
      exact ⟨rfl, rfl, rfl⟩
  | notRunning gone =>
      cases hreply
      refine ⟨rfl, fun process hprocess hruns => ?_⟩
      obtain ⟨first, older, hfamilies, -, hended⟩ := gone process hprocess
      obtain ⟨first', older', hfamilies', -, hlives⟩ := hruns
      rw [hfamilies] at hfamilies'
      cases hfamilies'
      rw [hended] at hlives
      cases hlives
  | notStopped managed fails =>
      cases hreply
      exact fails.elim
  | _ => cases hreply

end Account

namespace Shared

variable {deployment : Deployment} {s : Shared ProcessTable}
  {newer older : List (Completion ProcessTable)} {completion : Completion ProcessTable}

/-- Each completed call is a step of the account of those before it. -/
theorem Reachable.step_of_split (h : Reachable ProcessTable.host deployment s)
    (hsplit : completions s.history = newer ++ completion :: older) :
    ∃ account next, Account.Run s.history {} older.reverse account ∧
      Account.Step s.history completion account next := by
  obtain ⟨last, hrun, -⟩ := h.linear
  rw [hsplit, List.reverse_append, List.reverse_cons, List.append_assoc] at hrun
  obtain ⟨account, holder, hrest⟩ := hrun.of_append
  cases hrest with
  | @cons _ _ _ next _ first _ => exact ⟨account, next, holder, first⟩

theorem launches_of_run {account : Account} (h : Account.Run s.history {} older.reverse account) :
    account.launches = launchCount older := by
  rw [h.launches_eq, launchCount, List.countP_reverse, launchCount]
  exact Nat.zero_add _

/-- A supervisor that nobody has counts all the launches that were confirmed. -/
theorem Reachable.launches_of_vacant (h : Reachable ProcessTable.host deployment s) {warden : Warden}
    (hseat : s.seat = .vacant warden) :
    warden.launches = .ofNat (launchCount (completions s.history)) := by
  obtain ⟨account, hrun, hshows⟩ := h.linear
  rw [hseat] at hshows
  rw [hshows.1, launches_of_run hrun]

/-- A status counts the launches that were confirmed before it was told. -/
theorem Reachable.told_launches (h : Reachable ProcessTable.host deployment s)
    (hsplit : completions s.history = newer ++ completion :: older) {told : Status}
    (hreply : completion.reply = .told told) : told.launches = .ofNat (launchCount older) := by
  obtain ⟨account, next, hrun, hstep⟩ := h.step_of_split hsplit
  rw [(hstep.of_told hreply).1, launches_of_run hrun]

/-- As long as the process that a call has launched runs and is not displaced, every status tells of
it. -/
theorem Reachable.told_of_current (h : Reachable ProcessTable.host deployment s)
    {launch later : Completion ProcessTable} (hcurrent : Current s.history launch later)
    {time : Option FakeTime} {pid : Pid} (hlaunch : launch.reply = .launched (.ok ⟨time, pid⟩))
    (hruns : later.world.Newest pid false) {told : Status} (htold : later.reply = .told told) :
    told.running = true ∧ told.pid = some pid ∧ told.fakeTime = time.map (·.text) := by
  obtain ⟨newer, between, older, hsplit, hbetween⟩ := hcurrent
  obtain ⟨account, next, hrun, hstep⟩ := h.step_of_split hsplit
  rw [List.reverse_append, List.reverse_cons, List.append_assoc] at hrun
  obtain ⟨earlier, -, hrest⟩ := hrun.of_append
  cases hrest with
  | @cons _ _ _ launched _ first hkept =>
      obtain ⟨-, startedAt, hprocess⟩ := first.of_launched hlaunch
      have hsame := hkept.process_eq fun other hmem => hbetween other (List.mem_reverse.mp hmem)
      rw [hprocess] at hsame
      exact (hstep.of_told htold).2 _ hsame hruns

/-- A call that confirms a launch has started one process, with the environment that it was told under
the overlay for the fake time that it asks for. -/
theorem Reachable.spawnedOnce (h : Reachable ProcessTable.host deployment s)
    (hmem : completion ∈ completions s.history) {time : Option FakeTime} {pid : Pid}
    (hreply : completion.reply = .launched (.ok ⟨time, pid⟩)) :
    completion.operation.Asks time ∧
      ∃ inherited,
        SpawnedOnce s.history completion.caller pid (deployment.overlay.apply inherited time) := by
  have horderly := h.attended.orderly
  obtain ⟨newer, older, hsplit⟩ := List.append_of_mem hmem
  obtain ⟨account, next, -, hstep⟩ := h.step_of_split hsplit
  have hasks := (hstep.of_launched hreply).1
  have hoperation : completion.operation ≠ .tellStatus := by
    intro heq
    rw [heq] at hasks
    exact hasks
  obtain ⟨before, acquired, after, hbefore, hcarried⟩ := h.carried_of_completion completion hmem
  have htells := Operation.tells_of_carried hbefore.sound hoperation hcarried
  rw [hreply] at htells
  obtain ⟨⟨earlier, command, now, ⟨stop, environment, -, -, hearlier⟩, hexchanges⟩, -, -⟩ := htells
  have hspawned : .exchanged (some completion.caller) ⟨.spawn command, (.ok pid : Except Error Pid)⟩ ∈
      s.history := by
    refine mem_of_exchangesOf ?_
    rw [hexchanges]
    simp
  obtain ⟨caller, time', environment', hcaller, rfl, operation, inherited, hcalled, hasks', rfl, -⟩ :=
    h.furnished.spawns _ _ _ hspawned
  cases hcaller
  obtain rfl := horderly.operation_unique hcalled (horderly.called hmem)
  obtain rfl := hasks'.unique hasks
  refine ⟨hasks, inherited, earlier, _, [⟨.readDate, now⟩], hexchanges, ?_, rfl⟩
  intro exchange hexchange
  rcases List.mem_append.mp hexchange with hexchange | hexchange
  · exact hearlier exchange hexchange
  · obtain rfl := List.mem_singleton.mp hexchange
    rintro ⟨command, hcall⟩
    cases hcall

end Shared

end ClockWarden.Supervisor
