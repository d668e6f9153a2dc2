import ClockWarden.Proofs.Supervisor.Groups

/-! What a history tells of the groups that were launched, on any host. Each of them has been cleared since
it was launched, but for the last one, which somebody still owes it (`Kept`). An exchange keeps it so
whatever the host answers, refusals and reused numbers included, if it starts nothing while a group is owed
and pays a debt only by clearing the group (`Kept.answers`); a shared supervisor makes no other exchanges
(`Shared.Step.kept`). -/

namespace ClockWarden.Supervisor

open Host

/-- Every group that was launched has been cleared since. -/
def AllCleared {World : Type} (history : List (Event World)) : Prop :=
  ∀ newer event older pid, history = newer ++ event :: older → event.spawned? = some pid →
    Cleared pid newer

/-- Every group that was launched has been cleared since, but for the last one, if it is owed; and its
leader has been reaped since, if that is known. -/
def Kept {World : Type} (history : List (Event World)) (owed : Option Custody) : Prop :=
  ∀ newer event older pid, history = newer ++ event :: older → event.spawned? = some pid →
    Cleared pid newer ∨ startedIn newer = [] ∧ ∃ custody, owed = some custody ∧ custody.pid = pid ∧
      (custody.status?.isSome → Reaped pid newer)

/-- A group that has been cleared has been sent a killing signal, or was found empty. -/
theorem Cleared.exists_clears {World : Type} {pid : Pid} {history : List (Event World)}
    (h : Cleared pid history) :
    ∃ caller exchange, .exchanged caller exchange ∈ history ∧ exchange.Clears pid := by
  induction h with
  | killed kills => exact ⟨_, _, List.mem_cons_self, Or.inl kills⟩
  | empty found reaped => exact ⟨_, _, List.mem_cons_self, Or.inr found⟩
  | later _ ih =>
      obtain ⟨caller, exchange, hmem, hclears⟩ := ih
      exact ⟨caller, exchange, List.mem_cons_of_mem _ hmem, hclears⟩

namespace Kept

variable {World : Type} {history : List (Event World)} {owed owed' : Option Custody}

theorem nil : Kept ([] : List (Event World)) none := by
  intro newer event older pid hsplit
  cases newer <;> cases hsplit

theorem allCleared (h : Kept history none) : AllCleared history := by
  intro newer event older pid hsplit hspawned
  rcases h newer event older pid hsplit hspawned with hcleared | ⟨-, custody, howed, -⟩
  · exact hcleared
  · cases howed

/-- An event that starts nothing is told after all launches. -/
theorem later {event : Event World} (hnone : event.spawned? = none)
    (h : ∀ newer launch older pid, history = newer ++ launch :: older → launch.spawned? = some pid →
      Cleared pid (event :: newer) ∨ startedIn newer = [] ∧ ∃ custody, owed = some custody ∧
        custody.pid = pid ∧ (custody.status?.isSome → Reaped pid (event :: newer))) :
    Kept (event :: history) owed := by
  intro newer launch older pid hsplit hspawned
  rcases List.cons_eq_append_iff.mp hsplit with ⟨-, heq⟩ | ⟨between, rfl, hrest⟩
  · cases heq
    rw [hnone] at hspawned
    cases hspawned
  · rw [startedIn, List.filterMap_cons_none hnone]
    exact h between launch older pid hrest hspawned

/-- An event that is no exchange changes nothing. -/
theorem event {event : Event World} (h : Kept history owed)
    (hevent : ∀ caller exchange, event ≠ .exchanged caller exchange) : Kept (event :: history) owed := by
  have hnone : event.spawned? = none := by
    cases event with
    | exchanged caller exchange => exact absurd rfl (hevent caller exchange)
    | _ => rfl
  refine later hnone ?_
  intro newer launch older pid hsplit hspawned
  rcases h newer launch older pid hsplit hspawned with hcleared | ⟨hlast, custody, howed, hpid, hreaped⟩
  · exact Or.inl hcleared.later
  · exact Or.inr ⟨hlast, custody, howed, hpid, fun hstatus => (hreaped hstatus).later⟩

/-- An exchange that starts a process, while none is owed. -/
theorem spawn {exchange : Exchange} {pid : Pid} (h : Kept history none)
    (hspawned : exchange.spawned? = some pid) (caller : Option Caller) :
    Kept (.exchanged caller exchange :: history) (some ⟨pid, none⟩) := by
  intro newer launch older group hsplit hlaunched
  rcases List.cons_eq_append_iff.mp hsplit with ⟨rfl, heq⟩ | ⟨between, rfl, hrest⟩
  · cases heq
    obtain rfl : pid = group := Option.some.inj (hspawned.symm.trans hlaunched)
    exact Or.inr ⟨rfl, _, rfl, rfl, fun hstatus => (by cases hstatus)⟩
  · exact Or.inl (h.allCleared between launch older group hrest hlaunched).later

/-- An exchange that starts nothing, and is about nobody but the child that is owed. -/
theorem exchange {exchange : Exchange} (h : Kept history owed) (hspawn : exchange.spawned? = none)
    (hsubject : ∀ pid, exchange.call.subject? = some pid → owed.map Custody.pid = some pid)
    (hlets : Custody.Lets owed exchange owed') (caller : Option Caller) :
    Kept (.exchanged caller exchange :: history) owed' := by
  refine later hspawn ?_
  intro newer launch older pid hsplit hspawned
  rcases h newer launch older pid hsplit hspawned with hcleared | ⟨hlast, custody, rfl, rfl, hreaped⟩
  · exact Or.inl hcleared.later
  -- The child is owed as before, or its group has been cleared: nothing else pays a debt.
  · by_cases hstill : owed'.map Custody.pid = some custody.pid
    · obtain ⟨after, rfl, hpid⟩ := Option.map_eq_some_iff.mp hstill
      refine Or.inr ⟨hlast, after, rfl, hpid, fun hstatus => ?_⟩
      rcases (hlets.kept hspawn rfl).2 with hsame | hnow
      · cases hsame
        exact (hreaped hstatus).later
      · obtain ⟨subject, hcall⟩ := Option.isSome_iff_exists.mp (Exchange.subject?_isSome_of_reaped hnow)
        obtain rfl : custody.pid = subject := Option.some.inj (hsubject subject hcall)
        exact ⟨caller, _, List.mem_cons_self, hcall, hnow⟩
    · refine Or.inl (hlets.cleared hspawn rfl hstill ?_ caller)
      intro known howed hstatus
      cases howed
      exact hreaped hstatus

/-- Whatever the host answers, an exchange keeps the accounts. -/
theorem answers {exchange : Exchange} (h : Kept history owed)
    (hspawn : exchange.call.IsSpawn → owed = none)
    (hsubject : ∀ pid, exchange.call.subject? = some pid → owed.map Custody.pid = some pid)
    (hlets : Custody.Lets owed exchange owed') (caller : Option Caller) :
    Kept (.exchanged caller exchange :: history) owed' := by
  cases hspawned : exchange.spawned? with
  | none => exact h.exchange hspawned hsubject hlets caller
  | some pid =>
      have hcall : exchange.call.IsSpawn := by
        by_contra hother
        rw [Exchange.spawned?_eq_none hother] at hspawned
        cases hspawned
      obtain rfl := hspawn hcall
      obtain rfl : owed' = some ⟨pid, none⟩ := by
        rcases hlets with hlearn | ⟨-, custody, hcustody, -⟩
        · rw [hlearn, Custody.learn, hspawned]
        · cases hcustody
      exact h.spawn hspawned caller

/-- An exchange about no process. -/
theorem idle {exchange : Exchange} (h : Kept history owed) (hsubject : exchange.call.subject? = none)
    (hspawn : exchange.spawned? = none) (caller : Option Caller) :
    Kept (.exchanged caller exchange :: history) owed := by
  have hreaped : exchange.reaped? = none := by
    by_contra hnot
    have hsome := Exchange.subject?_isSome_of_reaped (Option.isSome_iff_ne_none.mpr hnot)
    rw [hsubject] at hsome
    cases hsome
  refine h.exchange hspawn ?_ (Or.inl ?_) caller
  · intro pid hpid
    rw [hsubject] at hpid
    cases hpid
  · simp only [Custody.learn, hspawn, hreaped]

end Kept

namespace Operation

/-- The child whose group is owed at a stage. -/
def Stage.owed : Stage → Option Custody
  | .discarding discard => discard.held
  | stage => stage.custody

namespace Underway

theorem owed_of_spawn {u : Underway} (h : u.call.IsSpawn) : u.stage.owed = none := by
  obtain ⟨deployment, launches, stage⟩ := u
  cases stage with
  | discarding discard => exact absurd h discard.call_not_spawn
  | _ => exact (custody_of_spawn h).1

theorem owed_of_subject {u : Underway} {pid : Pid} (h : u.call.subject? = some pid) :
    u.stage.owed.map Custody.pid = some pid := by
  obtain ⟨deployment, launches, stage⟩ := u
  cases stage with
  | discarding discard => exact Discard.held_of_subject h
  | _ => exact custody_of_subject h

theorem owed_interrupted {u : Underway} (h : u.call.suspends = true) :
    u.interrupted.current.map Handle.custody = u.stage.owed := by
  rw [custody_interrupted h]
  obtain ⟨deployment, launches, stage⟩ := u
  cases stage with
  | discarding discard =>
      obtain ⟨handle, stage⟩ := discard
      cases stage <;> cases h
  | _ => rfl

/-- What a turn leads to owes what an exchange leaves. -/
def Pays (before : Option Custody) (exchange : Exchange) (turn : Turn Underway Result) : Prop :=
  turn.Leads (fun next => Custody.Lets before exchange next.stage.owed)
    (fun result => Custody.Lets before exchange (result.1.current.map Handle.custody))

theorem pays_retired {u : Underway} (aim : Aim) {t : Termination} {exchange : Exchange}
    {result : Termination.Result} (hspawn : exchange.spawned? = none) (hends : t.Ends exchange result) :
    Pays (some t.handle.custody) exchange (u.retired aim result) := by
  have htends := tends_retired (u := u) aim hspawn hends
  obtain ⟨handle, outcome⟩ := result
  cases outcome with
  | stopped status =>
      cases aim with
      | launch time => exact htends.2.lets
      | stop => exact htends.lets
  | failed failure => exact htends.lets
  | overflowed => exact htends.lets

theorem pays_inspected {u : Underway} {handle seen : Handle} {exchange : Exchange} (runs : Bool)
    (hretired : seen.phase.isRetired = false)
    (hlets : Custody.Lets (some handle.custody) exchange (some seen.custody)) :
    Pays (some handle.custody) exchange (u.inspected (seen, runs)) := by
  cases runs with
  | true => exact hlets
  | false =>
      refine (Turn.leads_after _ _).mpr ((Turn.leads_within _).mpr ?_)
      refine (Discard.start_sound hretired).imp ?_ (fun _ hfalse => hfalse.elim)
      rintro discard ⟨-, hhandle, hstage⟩
      change Custody.Lets _ _ discard.held
      rw [Discard.held_of_ne_releasing hstage, hhandle]
      exact hlets

theorem pays_receive {u : Underway} (hsound : u.stage.Sound) (answer : u.call.Answer) :
    Pays u.stage.owed ⟨u.call, answer⟩ (u.receive answer) := by
  obtain ⟨deployment, launches, stage⟩ := u
  cases stage with
  | stopping aim termination =>
      have hspawn : Exchange.spawned? ⟨termination.call, answer⟩ = none :=
        Exchange.spawned?_eq_none termination.call_not_spawn
      refine (Turn.leads_within _).mpr ((Termination.receive_leads hsound answer).imp ?_ ?_)
      · rintro next ⟨-, hhandle⟩
        exact Or.inl ((congrArg (fun h => some (Handle.custody h)) hhandle).trans
          (termination.handle.custody_learn hspawn))
      · exact fun result hends => pays_retired aim hspawn hends
  | inheriting time => exact Or.inl rfl
  | launching launch =>
      obtain ⟨program, environment, time, stage⟩ := launch
      cases stage with
      | spawning =>
          rcases answer with cause | pid
          · exact Or.inl rfl
          · exact Or.inl rfl
      | stamping pid => exact Or.inl rfl
  | polling handle =>
      have hphase : handle.phase = .unreaped := hsound
      have hretired : handle.phase.isRetired = false := congrArg Phase.isRetired hphase
      refine (Turn.leads_after [] (inspected _ (handle.inspected answer))).mpr ?_
      rcases answer with cause | _ | status
      · exact pays_inspected false hretired (Or.inl rfl)
      · exact pays_inspected true hretired (Or.inl rfl)
      · have hspawn : Exchange.spawned?
            ⟨.pollExit handle.pid, (.ok (some status) : Except Error (Option ExitStatus))⟩ = none := rfl
        refine pays_inspected false (Discard.not_retired_reap hretired status) (Or.inl ?_)
        exact handle.custody_learn hspawn
  | discarding discard =>
      exact (Turn.leads_within _).mpr ((Discard.lets_receive hsound answer).imp
        (fun _ hlets => hlets) (fun _ hlets => hlets))

end Underway

/-- The first turn of an operation owes what the supervisor owed. -/
theorem Task.start_owed {s : Warden} (h : s.Sound) (task : Task) :
    (task.start s).Leads
      (fun next => next.stage.Sound ∧ next.stage.owed = s.current.map Handle.custody)
      (fun result => result.1.Sound ∧
        result.1.current.map Handle.custody = s.current.map Handle.custody) := by
  cases task with
  | pursue aim =>
      unfold Task.start
      cases hcurrent : s.current with
      | none =>
          cases aim with
          | launch time => exact ⟨trivial, rfl⟩
          | stop => exact ⟨h, congrArg (Option.map Handle.custody) hcurrent⟩
      | some handle => exact ⟨h handle hcurrent, rfl⟩
  | tell =>
      unfold Task.start
      cases hcurrent : s.current with
      | none => exact ⟨h, congrArg (Option.map Handle.custody) hcurrent⟩
      | some handle =>
          have hretired := h handle hcurrent
          refine (Turn.leads_within _).mpr ?_
          unfold Inspection.start
          rcases handle.phase_cases hretired with hphase | ⟨status, hphase⟩ <;> rw [hphase]
          · exact ⟨hphase, rfl⟩
          · refine (Turn.leads_after _ _).mpr ((Turn.leads_within _).mpr ?_)
            simp only [Discard.start, hphase]
            exact ⟨hretired, rfl⟩

section Histories

variable {World : Type} {history : List (Event World)}

/-- A supervisor that keeps its accounts keeps them when an operation begins. -/
theorem kept_start {s : Warden} (hsound : s.Sound)
    (h : Kept history (s.current.map Handle.custody)) (operation : Operation) :
    (operation.start s).Leads (fun next => next.stage.Sound ∧ Kept history next.stage.owed)
      (fun result => result.1.Sound ∧ Kept history (result.1.current.map Handle.custody)) := by
  unfold start
  split
  · exact ⟨hsound, h⟩
  · rename_i task _
    refine (task.start_owed hsound).imp ?_ ?_
    · rintro next ⟨hnext, howed⟩
      rw [howed]
      exact ⟨hnext, h⟩
    · rintro result ⟨hresult, howed⟩
      rw [howed]
      exact ⟨hresult, h⟩

/-- An operation that keeps its accounts keeps them at every answer. -/
theorem Underway.kept_receive {u : Underway} (hsound : u.stage.Sound) (h : Kept history u.stage.owed)
    (answer : u.call.Answer) (caller : Option Caller) :
    (u.receive answer).Leads
      (fun next => next.stage.Sound ∧
        Kept (.exchanged caller ⟨u.call, answer⟩ :: history) next.stage.owed)
      (fun result => result.1.Sound ∧
        Kept (.exchanged caller ⟨u.call, answer⟩ :: history) (result.1.current.map Handle.custody)) := by
  have hpays {owed : Option Custody} (hlets : Custody.Lets u.stage.owed ⟨u.call, answer⟩ owed) :
      Kept (.exchanged caller ⟨u.call, answer⟩ :: history) owed :=
    h.answers owed_of_spawn (fun _ => owed_of_subject) hlets caller
  refine ((keeps_receive hsound answer).and (pays_receive hsound answer)).imp ?_ ?_
  · exact fun next hnext => ⟨hnext.1.1, hpays hnext.2⟩
  · exact fun result hresult => ⟨hresult.1.1, hpays hresult.2⟩

end Histories

end Operation

section Histories

variable {World : Type} {history : List (Event World)}

/-- A supervisor that keeps its accounts keeps them when it begins to be let go of. -/
theorem Warden.kept_drop {s : Warden} (hsound : s.Sound)
    (h : Kept history (s.current.map Handle.custody)) :
    s.drop.Leads (fun next => next.Sound ∧ Kept history next.held) (fun _ => Kept history none) := by
  unfold drop
  cases hcurrent : s.current with
  | none =>
      rw [hcurrent] at h
      exact h
  | some handle =>
      rw [hcurrent] at h
      refine (Discard.start_sound (hsound handle hcurrent)).imp ?_ (fun _ hfalse => hfalse.elim)
      rintro next ⟨hnext, hhandle, hstage⟩
      rw [Discard.held_of_ne_releasing hstage, hhandle]
      exact ⟨hnext, h⟩

/-- The letting go of a process keeps the accounts at every answer, and leaves nothing owed. -/
theorem Discard.kept_receive {d : Discard} (hsound : d.Sound) (h : Kept history d.held)
    (answer : d.call.Answer) (caller : Option Caller) :
    (d.receive answer).Leads
      (fun next => next.Sound ∧ Kept (.exchanged caller ⟨d.call, answer⟩ :: history) next.held)
      (fun _ => Kept (.exchanged caller ⟨d.call, answer⟩ :: history) none) := by
  have hpays {owed : Option Custody} (hlets : Custody.Lets d.held ⟨d.call, answer⟩ owed) :
      Kept (.exchanged caller ⟨d.call, answer⟩ :: history) owed :=
    h.answers (fun hcall => absurd hcall d.call_not_spawn) (fun _ => held_of_subject) hlets caller
  refine ((receive_sound hsound answer).and (lets_receive hsound answer)).imp ?_ ?_
  · exact fun next hnext => ⟨hnext.1.1, hpays hnext.2⟩
  · exact fun _ hlast => hpays hlast.2

end Histories

/-- The child whose group is owed. -/
def Seat.owed : Seat → Option Custody
  | .vacant warden => warden.current.map Handle.custody
  | .taken _ _ underway => underway.stage.owed
  | .closing discard => discard.held
  | .closed => none

namespace Shared

variable {World : Type} {behaviour : Behaviour World} {deployment : Deployment}

theorem kept_proceed {s : Shared World} {caller : Caller} {operation : Operation}
    {turn : Turn Operation.Underway Operation.Result}
    (h : turn.Leads (fun next => Kept s.history next.stage.owed)
      (fun result => Kept s.history (result.1.current.map Handle.custody))) :
    Kept (s.proceed caller operation turn).history (s.proceed caller operation turn).seat.owed := by
  cases turn with
  | goOn entries next => exact h
  | finish entries result => exact Kept.event h (by simp)

theorem kept_letGo {s : Shared World} {turn : Turn Discard Unit}
    (h : turn.Leads (fun next => Kept s.history next.held) (fun _ => Kept s.history none)) :
    Kept (s.letGo turn).history (s.letGo turn).seat.owed := by
  cases turn <;> exact h

/-- A shared supervisor owes no group but that of the last process that it has launched. -/
theorem Step.kept {s s' : Shared World} (hstep : Step behaviour s s')
    (hsound : s.seat.Sound deployment) (h : Kept s.history s.seat.owed) :
    Kept s'.history s'.seat.owed := by
  cases hstep with
  | host acts => exact h
  | call opened fresh => exact h.event (by simp)
  | refuse waits refused => exact h.event (by simp)
  | giveUpWaiting waits => exact h.event (by simp)
  | acquire waits asks vacant =>
      rw [vacant] at h hsound
      exact kept_proceed ((Operation.kept_start hsound.1 h _).imp (fun _ hnext => hnext.2)
        (fun _ hresult => hresult.2))
  | exchange taken answer answers =>
      rw [taken] at h hsound
      exact kept_proceed ((Operation.Underway.kept_receive hsound.1 h answer _).imp
        (fun _ hnext => hnext.2) (fun _ hresult => hresult.2))
  | @giveUp caller operation underway taken suspended =>
      rw [taken] at h
      refine Kept.event ?_ (by simp)
      change Kept s.history (underway.interrupted.current.map Handle.custody)
      rw [Operation.Underway.owed_interrupted suspended]
      exact h
  | close vacant unused =>
      rw [vacant] at h hsound
      exact kept_letGo ((Warden.kept_drop hsound.1 h).imp (fun _ hnext => hnext.2) (fun _ hlast => hlast))
  | closing closes answer answers =>
      rw [closes] at h hsound
      exact kept_letGo ((Discard.kept_receive hsound h answer _).imp (fun _ hnext => hnext.2)
        (fun _ hlast => hlast))

/-- However a shared supervisor is used, whatever the host does, and whoever gives up: every group that it
has launched has been cleared since, but for the last one, which it still owes if it has not. -/
theorem Reachable.kept {s : Shared World} (h : Reachable behaviour deployment s) :
    Kept s.history s.seat.owed := by
  induction h with
  | begin => exact Kept.nil
  | step hreachable hstep ih => exact hstep.kept hreachable.sound ih

end Shared

end ClockWarden.Supervisor
