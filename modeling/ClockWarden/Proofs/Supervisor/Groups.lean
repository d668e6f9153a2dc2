import ClockWarden.Proofs.Host.Killing
import ClockWarden.Proofs.Supervisor.SingleInstance

/-! No process group is left behind. A supervisor holds the group of the last process that it has
started until the group is seen empty after its leader was reaped, or is sent a killing signal; so the
history of every run tells of each group that it was cleared, but for the one that is still held
(`no_leaked_group`). -/

namespace ClockWarden.Supervisor

open Host

/-- The process that an event tells the start of. -/
def Event.spawned? {World : Type} : Event World → Option Pid
  | .exchanged _ exchange => exchange.spawned?
  | _ => none

/-- The processes that have been started, the newest first. -/
def startedIn {World : Type} (history : List (Event World)) : List Pid :=
  history.filterMap Event.spawned?

/-- A history tells that the leader of a group was reaped. -/
def Reaped {World : Type} (pid : Pid) (history : List (Event World)) : Prop :=
  ∃ caller exchange, Event.exchanged caller exchange ∈ history ∧ exchange.Reaps pid

/-- A history tells that a group was sent a killing signal, or was found empty after its leader had
been reaped. -/
inductive Cleared {World : Type} (group : Pid) : List (Event World) → Prop
  | killed {caller : Option Caller} {exchange : Exchange} {older : List (Event World)}
      (kills : exchange.Kills group) : Cleared group (.exchanged caller exchange :: older)
  | empty {caller : Option Caller} {exchange : Exchange} {older : List (Event World)}
      (found : exchange.FindsEmpty group) (reaped : Reaped group older) :
      Cleared group (.exchanged caller exchange :: older)
  | later {event : Event World} {older : List (Event World)} (cleared : Cleared group older) :
      Cleared group (event :: older)

section History

variable {World : Type} {pid : Pid} {event : Event World} {older : List (Event World)}

theorem Reaped.later (h : Reaped pid older) : Reaped pid (event :: older) := by
  obtain ⟨caller, exchange, hmem, hreaps⟩ := h
  exact ⟨caller, exchange, List.mem_cons_of_mem _ hmem, hreaps⟩

/-- Only an exchange can clear a group that was not cleared before. -/
theorem Cleared.older_or_clears (h : Cleared pid (event :: older)) :
    Cleared pid older ∨ ∃ caller exchange, event = .exchanged caller exchange ∧ exchange.Clears pid := by
  cases h with
  | killed kills => exact Or.inr ⟨_, _, rfl, Or.inl kills⟩
  | empty found reaped => exact Or.inr ⟨_, _, rfl, Or.inr found⟩
  | later cleared => exact Or.inl cleared

end History

/-- What is held after an exchange: what has been learned about the child, or nothing, if the exchange
clears the group. -/
def Custody.Lets (before : Option Custody) (exchange : Exchange) (after : Option Custody) : Prop :=
  after = Custody.learn before exchange ∨
    after = none ∧ ∃ custody, before = some custody ∧
      (exchange.Kills custody.pid ∨ custody.status?.isSome ∧ exchange.FindsEmpty custody.pid)

theorem Custody.Moves.lets {before after : Option Custody} {exchange : Exchange}
    (h : Custody.Moves before exchange after) : Custody.Lets before exchange after := by
  rcases h with hlearn | ⟨hnone, custody, hbefore, -, hreaped, hempty | hkills⟩
  · exact Or.inl hlearn
  · exact Or.inr ⟨hnone, custody, hbefore, Or.inr ⟨hreaped, hempty⟩⟩
  · exact Or.inr ⟨hnone, custody, hbefore, Or.inl hkills⟩

theorem Custody.map_pid_learn {exchange : Exchange} (hspawn : exchange.spawned? = none)
    (held : Option Custody) : (Custody.learn held exchange).map Custody.pid = held.map Custody.pid := by
  unfold Custody.learn
  rw [hspawn]
  cases exchange.reaped? with
  | none => rfl
  | some status => cases held <;> rfl

namespace Custody.Lets

variable {before after : Option Custody} {exchange : Exchange}

/-- What is held afterwards was held before, and its leader is reaped now if it was not. -/
theorem kept (h : Custody.Lets before exchange after) (hspawn : exchange.spawned? = none)
    {custody : Custody} (hafter : after = some custody) :
    before.map Custody.pid = some custody.pid ∧
      (before = some custody ∨ exchange.reaped?.isSome) := by
  rcases h with hlearn | ⟨hnone, -⟩
  · have hpid := Custody.map_pid_learn hspawn before
    rw [hafter] at hlearn
    rw [← hlearn] at hpid
    refine ⟨hpid.symm, ?_⟩
    cases hreaped : exchange.reaped? with
    | none =>
        simp only [Custody.learn, hspawn, hreaped] at hlearn
        exact Or.inl hlearn.symm
    | some status => exact Or.inr rfl
  · rw [hnone] at hafter
    cases hafter

/-- A group that is not held any more has been cleared. -/
theorem cleared {World : Type} {history : List (Event World)} (h : Custody.Lets before exchange after)
    (hspawn : exchange.spawned? = none) {pid : Pid} (hbefore : before.map Custody.pid = some pid)
    (hafter : after.map Custody.pid ≠ some pid)
    (hreaped : ∀ custody, before = some custody → custody.status?.isSome →
      Reaped custody.pid history) (caller : Option Caller) :
    Cleared pid (.exchanged caller exchange :: history) := by
  rcases h with hlearn | ⟨-, custody, hcustody, hkills | ⟨hstatus, hempty⟩⟩
  · rw [hlearn, Custody.map_pid_learn hspawn] at hafter
    exact absurd hbefore hafter
  · rw [hcustody] at hbefore
    cases hbefore
    exact .killed hkills
  · have hleader := hreaped custody hcustody hstatus
    rw [hcustody] at hbefore
    cases hbefore
    exact .empty hempty hleader

end Custody.Lets

/-- What a table and a history say about each other and about the child that is held. -/
structure Accounts (table : ProcessTable) (history : List (Event ProcessTable)) (held : Option Custody) :
    Prop where
  started : table.families.map Family.pid = startedIn history
  /-- No group is cleared before it is started. -/
  known : ∀ pid, Cleared pid history → pid ∈ startedIn history
  spared : ∀ f ∈ table.families, Cleared f.pid history → ¬f.Spares
  cleared : ∀ pid ∈ startedIn history, held.map Custody.pid ≠ some pid → Cleared pid history
  holds : ∀ custody, held = some custody → custody.pid ∈ startedIn history
  reaped : ∀ custody, held = some custody → custody.status?.isSome → Reaped custody.pid history

namespace Accounts

variable {table table' : ProcessTable} {history : List (Event ProcessTable)}
  {held held' : Option Custody}

theorem acts (h : Accounts table history held) (hacts : ProcessTable.host.acts table table') :
    Accounts table' history held := by
  have hcalm : List.Forall₂ Family.Calm table.families table'.families :=
    hacts.imp fun _ _ hgoes => hgoes.calm
  refine ⟨?_, h.known, ?_, h.cleared, h.holds, h.reaped⟩
  · rw [Family.map_pid_of_calm hcalm]
    exact h.started
  · exact Family.not_spares_of_calm hcalm (Cleared · history) h.spared

/-- An event that is no exchange changes nothing. -/
theorem event (h : Accounts table history held) {event : Event ProcessTable}
    (hevent : ∀ caller exchange, event ≠ .exchanged caller exchange) :
    Accounts table (event :: history) held := by
  have holder (pid : Pid) (hcleared : Cleared pid (event :: history)) : Cleared pid history :=
    hcleared.older_or_clears.resolve_right fun ⟨caller, exchange, heq, _⟩ => hevent caller exchange heq
  have hstarted : startedIn (event :: history) = startedIn history := by
    cases event with
    | exchanged caller exchange => exact absurd rfl (hevent caller exchange)
    | _ => rfl
  refine ⟨?_, ?_, ?_, ?_, ?_, ?_⟩
  · rw [hstarted]
    exact h.started
  · rw [hstarted]
    exact fun pid hcleared => h.known pid (holder pid hcleared)
  · exact fun f hf hcleared => h.spared f hf (holder f.pid hcleared)
  · rw [hstarted]
    exact fun pid hpid hheld => (h.cleared pid hpid hheld).later
  · rw [hstarted]
    exact h.holds
  · exact fun custody hheld hstatus => (h.reaped custody hheld hstatus).later

/-- An exchange that starts a process, while none is held. -/
theorem spawn (h : Accounts table history none) {pid : Pid} {exchange : Exchange}
    (hspawn : exchange.spawned? = some pid) (hfresh : ∀ f ∈ table.families, f.pid ≠ pid)
    (caller : Option Caller) :
    Accounts (table.start pid) (.exchanged caller exchange :: history) (some ⟨pid, none⟩) := by
  have holder (group : Pid) (hcleared : Cleared group (.exchanged caller exchange :: history)) :
      Cleared group history := by
    refine hcleared.older_or_clears.resolve_right ?_
    rintro ⟨other, exchange', heq, hclears⟩
    cases heq
    rw [hclears.spawned?] at hspawn
    cases hspawn
  have hstarted : startedIn (Event.exchanged caller exchange :: history) = pid :: startedIn history :=
    List.filterMap_cons_some hspawn
  have hnew : pid ∉ startedIn history := by
    rw [← h.started, List.mem_map]
    rintro ⟨f, hf, hpid⟩
    exact hfresh f hf hpid
  refine ⟨?_, ?_, ?_, ?_, ?_, ?_⟩
  · rw [hstarted, ← h.started]
    rfl
  · intro group hcleared
    rw [hstarted]
    exact List.mem_cons_of_mem pid (h.known group (holder group hcleared))
  · intro f hf hcleared
    rcases List.mem_cons.mp hf with rfl | hmem
    · exact absurd (h.known pid (holder pid hcleared)) hnew
    · exact h.spared f hmem (holder f.pid hcleared)
  · intro group hgroup hheld
    rw [hstarted] at hgroup
    rcases List.mem_cons.mp hgroup with rfl | hmem
    · exact absurd rfl hheld
    · exact (h.cleared group hmem (by simp)).later
  · intro custody hheld
    cases hheld
    rw [hstarted]
    exact List.mem_cons_self
  · intro custody hheld hstatus
    cases hheld
    cases hstatus

/-- An exchange that starts nothing, and is about nobody but the child that is held. -/
theorem exchange (h : Accounts table history held) {call : Call} {answer : call.Answer}
    (htruth : table.Truthful call answer) (hanswers : table.Answers table' call answer)
    (hspawn : Exchange.spawned? ⟨call, answer⟩ = none)
    (hcalm : List.Forall₂ Family.Calm table.families table'.families)
    (hsubject : ∀ pid, call.subject? = some pid → held.map Custody.pid = some pid)
    (hlets : Custody.Lets held ⟨call, answer⟩ held') (caller : Option Caller) :
    Accounts table' (.exchanged caller ⟨call, answer⟩ :: history) held' := by
  have hstarted : startedIn (Event.exchanged caller ⟨call, answer⟩ :: history) = startedIn history :=
    List.filterMap_cons_none hspawn
  have hclears {pid : Pid} (hcleared : Cleared pid (.exchanged caller ⟨call, answer⟩ :: history)) :
      Cleared pid history ∨ Exchange.Clears pid ⟨call, answer⟩ := by
    refine hcleared.older_or_clears.imp_right ?_
    rintro ⟨other, exchange, heq, hclears⟩
    cases heq
    exact hclears
  have hholds {pid : Pid} (hheld : held.map Custody.pid = some pid) : pid ∈ startedIn history := by
    obtain ⟨custody, hcustody, rfl⟩ := Option.map_eq_some_iff.mp hheld
    exact h.holds custody hcustody
  refine ⟨?_, ?_, ?_, ?_, ?_, ?_⟩
  · rw [hstarted, Family.map_pid_of_calm hcalm]
    exact h.started
  · intro pid hcleared
    rw [hstarted]
    rcases hclears hcleared with holder | hnow
    · exact h.known pid holder
    · exact hholds (hsubject pid hnow.subject?)
  · intro f hf hcleared
    rcases hclears hcleared with holder | hnow
    · exact Family.not_spares_of_calm hcalm (Cleared · history) h.spared f hf holder
    · exact ProcessTable.not_spares_of_clears hanswers htruth hnow f hf rfl
  · intro pid hstart hheld
    rw [hstarted] at hstart
    by_cases hbefore : held.map Custody.pid = some pid
    · exact hlets.cleared hspawn hbefore hheld h.reaped caller
    · exact (h.cleared pid hstart hbefore).later
  · intro custody hheld
    rw [hstarted]
    exact hholds (hlets.kept hspawn hheld).1
  · intro custody hheld hstatus
    obtain ⟨hsame, hcustody | hreaped⟩ := hlets.kept hspawn hheld
    · exact (h.reaped custody hcustody hstatus).later
    · obtain ⟨pid, hpid⟩ := Option.isSome_iff_exists.mp (Exchange.subject?_isSome_of_reaped hreaped)
      have hsubject : held.map Custody.pid = some pid := hsubject pid hpid
      rw [hsame] at hsubject
      cases hsubject
      exact ⟨caller, _, List.mem_cons_self, hpid, hreaped⟩

end Accounts

theorem Accounts.answers {table table' : ProcessTable} {history : List (Event ProcessTable)}
    {held held' : Option Custody} (h : Accounts table history held) {call : Call} {answer : call.Answer}
    (hanswers : ProcessTable.truthfulHost.answers table call answer table')
    (hspawn : call.IsSpawn → held = none)
    (hsubject : ∀ pid, call.subject? = some pid → held.map Custody.pid = some pid)
    (hlets : Custody.Lets held ⟨call, answer⟩ held') (caller : Option Caller) :
    Accounts table' (.exchanged caller ⟨call, answer⟩ :: history) held' := by
  obtain ⟨hanswers, htruth⟩ := hanswers
  rcases hanswers.families with ⟨pid, hstarts, rfl⟩ | ⟨hnone, hcalm⟩
  · have hcall : call.IsSpawn := by
      by_contra hother
      rw [Exchange.spawned?_eq_none hother] at hstarts
      cases hstarts
    have hfresh : ∀ f ∈ table.families, f.pid ≠ pid := by
      obtain ⟨command, rfl⟩ := hcall
      refine htruth pid ?_
      rcases answer with cause | other
      · cases hstarts
      · exact congrArg Except.ok (Option.some.inj hstarts)
    obtain rfl := hspawn hcall
    obtain rfl : held' = some ⟨pid, none⟩ := by
      rcases hlets with hlearn | ⟨-, custody, hcustody, -⟩
      · rw [hlearn, Custody.learn, hstarts]
      · cases hcustody
    exact h.spawn hstarts hfresh caller
  · exact h.exchange htruth hanswers hnone hcalm hsubject hlets caller

/-- The child whose group is still to be cleared. -/
def Discard.held (d : Discard) : Option Custody :=
  match d.stage with
  | .releasing => none
  | .polling | .killing => some d.handle.custody

theorem Discard.held_of_ne_releasing {d : Discard} (h : d.stage ≠ .releasing) :
    d.held = some d.handle.custody := by
  obtain ⟨handle, stage⟩ := d
  cases stage with
  | releasing => exact absurd rfl h
  | _ => rfl

theorem Discard.lets_receive {d : Discard} (h : d.Sound) (answer : d.call.Answer) :
    (d.receive answer).Leads (fun next => Custody.Lets d.held ⟨d.call, answer⟩ next.held)
      (fun _ => Custody.Lets d.held ⟨d.call, answer⟩ none) := by
  obtain ⟨handle, stage⟩ := d
  cases stage with
  | polling =>
      have hreap (status : ExitStatus) : some (handle.reap status).custody =
          some (⟨handle.pid, some (handle.custody.status?.getD status)⟩ : Custody) := by
        rw [Handle.reap_of_unreaped h, Handle.custody, Handle.custody, show handle.phase = _ from h]
        rfl
      rcases answer with cause | _ | status
      · exact Or.inl rfl
      · exact Or.inl rfl
      · exact Or.inl (hreap status)
  | killing =>
      have hkills : Exchange.Kills handle.pid ⟨call ⟨handle, .killing⟩, answer⟩ := ⟨answer, rfl⟩
      change (killed handle).Leads _ _
      unfold killed
      split
      · exact Or.inr ⟨rfl, handle.custody, rfl, Or.inl hkills⟩
      · exact Or.inr ⟨rfl, handle.custody, rfl, Or.inl hkills⟩
  | releasing => exact Or.inl rfl

theorem Discard.held_of_subject {d : Discard} {pid : Pid} (h : d.call.subject? = some pid) :
    d.held.map Custody.pid = some pid := by
  obtain ⟨handle, stage⟩ := d
  cases stage <;> exact h

theorem Operation.Underway.custody_of_subject {u : Underway} {pid : Pid}
    (h : u.call.subject? = some pid) : u.stage.custody.map Custody.pid = some pid := by
  obtain ⟨deployment, launches, stage⟩ := u
  cases stage with
  | stopping aim termination =>
      obtain ⟨handle, grace, stage⟩ := termination
      cases stage <;> first | exact h | cases h
  | inheriting time => cases h
  | launching launch =>
      obtain ⟨program, environment, time, stage⟩ := launch
      cases stage <;> cases h
  | polling handle => exact h
  | discarding discard =>
      obtain ⟨handle, stage⟩ := discard
      cases stage <;> first | exact h | cases h

namespace Seat

/-- The child whose group is still to be cleared. -/
def held : Seat → Option Custody
  | .vacant warden => warden.current.map Handle.custody
  | .taken _ _ underway => underway.stage.custody
  | .closing discard => discard.held
  | .closed => none

/-- The group that is still to be cleared. -/
def group? (seat : Seat) : Option Pid := seat.held.map Custody.pid

/-- No process is on its way to the supervisor, or has just been taken from it. -/
def AtRest : Seat → Prop
  | .vacant _ | .closed => True
  | .taken _ _ underway =>
    match underway.stage with
    | .launching launch => launch.stage = .spawning
    | .discarding _ => False
    | _ => True
  | .closing _ => False

/-- At rest the group that is still to be cleared is that of the managed process. -/
theorem group?_of_atRest {seat : Seat} (h : seat.AtRest) :
    seat.group? = seat.current.map Handle.group := by
  cases seat with
  | vacant warden =>
      rw [group?, held, current, Option.map_map]
      rfl
  | closed => rfl
  | closing discard => exact h.elim
  | taken caller operation underway =>
      obtain ⟨deployment, launches, stage⟩ := underway
      cases stage with
      | launching launch =>
          obtain ⟨program, environment, time, stage⟩ := launch
          obtain rfl : stage = .spawning := h
          rfl
      | discarding discard => exact h.elim
      | _ => rfl

/-- Whoever may be given up leaves the supervisor at rest. -/
theorem atRest_of_suspends {seat : Seat} {call : Call} (hcall : seat.call? = some call)
    (hsuspends : call.suspends = true) : seat.AtRest := by
  cases seat with
  | taken caller operation underway =>
      obtain rfl : underway.call = call := Option.some.inj hcall
      obtain ⟨deployment, launches, stage⟩ := underway
      cases stage with
      | launching launch =>
          obtain ⟨program, environment, time, stage⟩ := launch
          cases stage <;> cases hsuspends
      | discarding discard =>
          obtain ⟨handle, stage⟩ := discard
          cases stage <;> cases hsuspends
      | _ => exact trivial
  | closing discard =>
      obtain rfl : discard.call = call := Option.some.inj hcall
      obtain ⟨handle, stage⟩ := discard
      cases stage <;> cases hsuspends
  | _ => exact trivial

end Seat

namespace Shared

/-- What a shared supervisor holds agrees with its history and the process table of its host. -/
def Tidy (s : Shared ProcessTable) : Prop := Accounts s.world s.history s.seat.held

theorem tidy_proceed {s : Shared ProcessTable} {caller : Caller} {operation : Operation}
    {turn : Turn Operation.Underway Operation.Result}
    (h : turn.Leads (fun next => Accounts s.world s.history next.stage.custody)
      (fun result => Accounts s.world s.history (result.1.current.map Handle.custody))) :
    (s.proceed caller operation turn).Tidy := by
  cases turn with
  | goOn entries next => exact h
  | finish entries result => exact Accounts.event h (by simp)

theorem tidy_letGo {s : Shared ProcessTable} {turn : Turn Discard Unit}
    (h : turn.Leads (fun next => Accounts s.world s.history next.held)
      (fun _ => Accounts s.world s.history none)) : (s.letGo turn).Tidy := by
  cases turn <;> exact h

theorem Step.tidy {deployment : Deployment} {s s' : Shared ProcessTable}
    (hstep : Step ProcessTable.truthfulHost s s') (hsound : s.seat.Sound deployment)
    (hsettled : s.Settled) (h : s.Tidy) : s'.Tidy := by
  unfold Tidy at h
  cases hstep with
  | host acts => exact h.acts acts
  | call opened fresh => exact h.event (by simp)
  | refuse waits refused => exact h.event (by simp)
  | giveUpWaiting waits => exact h.event (by simp)
  | acquire waits asks vacant =>
      rw [vacant] at h hsound
      rw [Operation.start_of_task asks]
      refine tidy_proceed ((Operation.Task.start_custody hsound.1 _).imp ?_ ?_)
      · rintro next ⟨-, hcustody⟩
        rw [hcustody]
        exact h
      · intro result hcustody
        rw [hcustody]
        exact h
  | @exchange caller operation underway world taken answer answers =>
      obtain ⟨hcertain, hagrees, -⟩ := hsettled
      rw [taken] at h hsound hcertain hagrees
      have hpoll := Operation.Underway.not_pollFails hsound.1 hcertain (hagrees (by simp)) answers.1
      have hspawn (hcall : underway.call.IsSpawn) : underway.stage.custody = none :=
        (Operation.Underway.custody_of_spawn hcall).1
      have hsubject (pid : Pid) (hcall : underway.call.subject? = some pid) :=
        Operation.Underway.custody_of_subject hcall
      refine tidy_proceed ((Operation.Underway.tends_receive hsound.1 hcertain answer hpoll).imp ?_ ?_)
      · exact fun next hnext => h.answers answers hspawn hsubject hnext.2.lets _
      · exact fun result hmoves => h.answers answers hspawn hsubject hmoves.lets _
  | @giveUp caller operation underway taken suspended =>
      rw [taken] at h
      have hcustody := Operation.Underway.custody_interrupted suspended
      refine Accounts.event ?_ (by simp)
      change Accounts s.world s.history (underway.interrupted.current.map Handle.custody)
      rw [hcustody]
      exact h
  | @close warden vacant unused =>
      rw [vacant] at h hsound
      change Accounts s.world s.history (warden.current.map Handle.custody) at h
      refine tidy_letGo ?_
      unfold Warden.drop
      cases hcurrent : warden.current with
      | none =>
          rw [hcurrent] at h
          exact h
      | some handle =>
          rw [hcurrent] at h
          refine (Discard.start_sound (hsound.1 handle hcurrent)).imp ?_ (fun _ h => h.elim)
          rintro next ⟨-, hhandle, hstage⟩
          rw [Discard.held_of_ne_releasing hstage, hhandle]
          exact h
  | @closing discard world closes answer answers =>
      rw [closes] at h hsound
      have hspawn (hcall : discard.call.IsSpawn) : discard.held = none :=
        absurd hcall discard.call_not_spawn
      have hsubject (pid : Pid) (hcall : discard.call.subject? = some pid) :=
        Discard.held_of_subject hcall
      refine tidy_letGo ((Discard.lets_receive hsound answer).imp ?_ ?_)
      · exact fun next hlets => h.answers answers hspawn hsubject hlets _
      · exact fun _ hlets => h.answers answers hspawn hsubject hlets _

theorem Reachable.tidy {deployment : Deployment} {s : Shared ProcessTable}
    (h : Reachable ProcessTable.truthfulHost deployment s) : s.Tidy := by
  induction h with
  | begin =>
      refine ⟨rfl, ?_, ?_, ?_, ?_, ?_⟩
      · exact fun pid hcleared => (by cases hcleared)
      · exact fun f hf => (by cases hf)
      · exact fun pid hpid => (by cases hpid)
      · exact fun custody hheld => (by cases hheld)
      · exact fun custody hheld => (by cases hheld)
  | step hreachable hstep ih =>
      exact hstep.tidy hreachable.sound hreachable.of_truthful.settled ih

/-- Of every group that was ever started the history tells that it was killed, or found empty after its
leader was reaped, and nobody is left in it who was spared; but for one group. Whenever the supervisor is
at rest, as it is while anybody waits for the host, that group is the one of the managed process. -/
theorem no_leaked_group {deployment : Deployment} {s : Shared ProcessTable}
    (h : Reachable ProcessTable.truthfulHost deployment s) :
    s.world.families.map Family.pid = startedIn s.history ∧
      (∀ f ∈ s.world.families,
        s.seat.group? = some f.pid ∨ Cleared f.pid s.history ∧ ¬f.Spares) ∧
      (s.seat.AtRest → s.seat.group? = s.seat.current.map Handle.group) ∧
      ∀ call, s.seat.call? = some call → call.suspends = true → s.seat.AtRest := by
  have htidy := h.tidy
  refine ⟨htidy.started, ?_, Seat.group?_of_atRest, fun _ => Seat.atRest_of_suspends⟩
  intro f hf
  by_cases hheld : s.seat.group? = some f.pid
  · exact Or.inl hheld
  · have hstarted : f.pid ∈ startedIn s.history := by
      rw [← htidy.started]
      exact List.mem_map_of_mem hf
    have hcleared := htidy.cleared f.pid hstarted hheld
    exact Or.inr ⟨hcleared, htidy.spared f hf hcleared⟩

theorem no_leaked_group_replaced :
    ∃ s : Shared ProcessTable, Reachable ProcessTable.truthfulHost .standard s ∧
      startedIn s.history = [8, 7] ∧ s.seat.group? = some 8 ∧
      s.seat.current = some Sample.secondHandle ∧ Cleared 7 s.history := by
  obtain ⟨s, hs, hworld, hseat⟩ := Sample.replaced_reaches
  obtain ⟨hstarted, hgroups, hrest, -⟩ := no_leaked_group hs
  rw [hworld] at hstarted hgroups
  rw [hseat] at hgroups hrest
  have hgroup := hrest trivial
  have hfirst := hgroups _ (List.mem_cons_of_mem _ List.mem_cons_self)
  refine ⟨s, hs, hstarted.symm, by rw [hseat]; exact hgroup, by rw [hseat]; rfl, ?_⟩
  rw [hgroup] at hfirst
  exact (hfirst.resolve_left (by decide)).1

end Shared

end ClockWarden.Supervisor
