import ClockWarden.Proofs.Host.Exchange
import Mathlib.Data.List.Forall2

/-! Process groups as a host keeps them for whoever starts them. Each start makes a family: the leader,
which stays in the table until it is reaped, and the other processes of its group, which come by forks
only. Leaders and members do what they like; a killing signal marks every process then in the group,
and a marked process forks no more. A look at a child tells whether it has ended, and reaps it if so;
waiting may fail, and signals may be refused. `Agrees` compares the table with what a caller knows
about the last child that it started. -/

namespace ClockWarden.Host

/-- A process of a group besides the leader. -/
structure Member where
  killed : Bool := false

/-- How the leader of a group stands. -/
inductive Leader where
  | running (killed : Bool)
  /-- It has ended, and nobody has reaped it. -/
  | ended (status : ExitStatus)
  | reaped (status : ExitStatus)

namespace Leader

def kill : Leader → Leader
  | running _ => running true
  | leader => leader

/-- How the leader ended, once it has been reaped. -/
def status? : Leader → Option ExitStatus
  | reaped status => some status
  | _ => none

/-- Whether the leader has ended, be it reaped or not. -/
def hasEnded : Leader → Bool
  | running _ => false
  | _ => true

theorem hasEnded_of_status {leader : Leader} (h : leader.status?.isSome) : leader.hasEnded = true := by
  cases leader with
  | reaped status => rfl
  | _ => cases h

theorem status?_kill (leader : Leader) : leader.kill.status? = leader.status? := by
  cases leader <;> rfl

end Leader

/-- What a start has made: a leader, and the other processes of its group. -/
structure Family where
  /-- The number of the leader, and of the group. -/
  pid : Pid
  leader : Leader := .running false
  /-- Whether the leader has stayed in its group. -/
  inside : Bool := true
  members : List Member := []
  /-- Whether somebody still looks after the leader. -/
  cared : Bool := true

namespace Family

/-- How the leader ended, once it has been reaped. -/
def status? (f : Family) : Option ExitStatus := f.leader.status?

/-- Nobody bears the number of the group as the group's. -/
def IsEmpty (f : Family) : Prop := f.members = [] ∧ (f.inside = true → f.status?.isSome)

/-- A process of the group lives that no killing signal has reached. -/
def Spares (f : Family) : Prop :=
  (∃ member ∈ f.members, member.killed = false) ∨ (f.inside = true ∧ f.leader = .running false)

/-- A killing signal to the group. -/
def kill (f : Family) : Family :=
  { f with
    leader := if f.inside then f.leader.kill else f.leader
    members := f.members.map fun _ => ⟨true⟩ }

/-- A signal to the group. What other signals do to a process is up to the process. -/
def signal (f : Family) (signal : Signal) : Family := if signal = .kill then f.kill else f

/-- The leader is taken out of the table, if it has ended. -/
def reap (f : Family) : Family :=
  match f.leader with
  | .ended status => { f with leader := .reaped status }
  | _ => f

/-- The leader is killed, and left to the host. -/
def abandon (f : Family) : Family := { f with leader := f.leader.kill, cared := false }

/-- What a family does by itself. -/
inductive Goes : Family → Family → Prop
  | rests {f : Family} : Goes f f
  | ends {f : Family} {killed : Bool} {status : ExitStatus} (runs : f.leader = .running killed) :
      Goes f { f with leader := .ended status }
  /-- The leader joins another group, and never comes back. -/
  | leaves {f : Family} {killed : Bool} (runs : f.leader = .running killed) :
      Goes f { f with inside := false }
  | forks {f : Family} (spared : f.Spares) : Goes f { f with members := {} :: f.members }
  /-- A member ends, or joins another group. -/
  | shrinks {f : Family} {before after : List Member} {member : Member}
      (has : f.members = before ++ member :: after) : Goes f { f with members := before ++ after }
  /-- The host reaps a leader that was left to it. -/
  | released {f : Family} {status : ExitStatus} (ended : f.leader = .ended status)
      (abandoned : f.cared = false) : Goes f { f with leader := .reaped status }

/-- The number stays, and so does all that whoever looks after the leader can know. -/
def Steady (f g : Family) : Prop :=
  g.pid = f.pid ∧ (f.cared = true ∨ f.status?.isSome → g.cared = f.cared ∧ g.status? = f.status?)

theorem Steady.refl (f : Family) : f.Steady f := ⟨rfl, fun _ => ⟨rfl, rfl⟩⟩

theorem Goes.steady {f g : Family} (h : f.Goes g) : f.Steady g := by
  cases h with
  | rests => exact Steady.refl f
  | ends runs => exact ⟨rfl, fun _ => ⟨rfl, by simp only [status?, runs, Leader.status?]⟩⟩
  | leaves runs => exact ⟨rfl, fun _ => ⟨rfl, rfl⟩⟩
  | forks spared => exact ⟨rfl, fun _ => ⟨rfl, rfl⟩⟩
  | shrinks has => exact ⟨rfl, fun _ => ⟨rfl, rfl⟩⟩
  | released ended abandoned =>
      refine ⟨rfl, ?_⟩
      rintro (hcared | hreaped)
      · rw [abandoned] at hcared
        cases hcared
      · simp [status?, ended, Leader.status?] at hreaped

theorem Goes.hasEnded {f g : Family} (h : f.Goes g) (hended : f.leader.hasEnded = true) :
    g.leader.hasEnded = true := by
  cases h with
  | ends runs => rfl
  | released ended abandoned => rfl
  | _ => exact hended

theorem steady_signal (f : Family) (signal : Signal) : f.Steady (f.signal signal) := by
  unfold Family.signal
  split
  · refine ⟨rfl, fun _ => ⟨rfl, ?_⟩⟩
    simp only [status?, kill]
    split
    · exact f.leader.status?_kill
    · rfl
  · exact Steady.refl f

theorem steady_reap {f : Family} (h : f.status?.isSome) : f.Steady f.reap := by
  unfold reap
  split
  · rename_i status hended
    simp [status?, hended, Leader.status?] at h
  · exact Steady.refl f

end Family

/-- The families that a host has made, the newest first. -/
structure ProcessTable where
  families : List Family := []

/-- What a caller knows about the child that it looks after. -/
structure Custody where
  pid : Pid
  status? : Option ExitStatus

/-- What a caller knows after an exchange. -/
def Custody.learn (custody : Option Custody) (exchange : Exchange) : Option Custody :=
  match exchange.spawned? with
  | some pid => some ⟨pid, none⟩
  | none =>
    match exchange.reaped? with
    | some status => custody.map fun c => ⟨c.pid, some (c.status?.getD status)⟩
    | none => custody

namespace ProcessTable

/-- Changes the families of a number. -/
def update (table : ProcessTable) (pid : Pid) (change : Family → Family) : ProcessTable :=
  ⟨table.families.map fun f => if f.pid = pid then change f else f⟩

/-- Makes a family. -/
def start (table : ProcessTable) (pid : Pid) : ProcessTable := ⟨{ pid } :: table.families⟩

/-- No process bears a number as its own or its group's. -/
def Free (table : ProcessTable) (pid : Pid) : Prop :=
  ∀ f ∈ table.families, f.pid = pid → f.IsEmpty ∧ f.status?.isSome

/-- A child has ended and can be reaped. -/
def HasEnded (table : ProcessTable) (pid : Pid) (status : ExitStatus) : Prop :=
  ∃ f ∈ table.families, f.pid = pid ∧ f.leader = .ended status

/-- A child has not ended. -/
def IsRunning (table : ProcessTable) (pid : Pid) : Prop :=
  ∃ f ∈ table.families, f.pid = pid ∧ f.leader.hasEnded = false

/-- There is no such child, or it has been reaped. -/
def IsGone (table : ProcessTable) (pid : Pid) : Prop :=
  ∀ f ∈ table.families, f.pid = pid → f.status?.isSome

/-- The answers that a host may give to a call, and what becomes of its table. -/
def Answers (table table' : ProcessTable) : (call : Call) → call.Answer → Prop
  | .spawn _, answer =>
    match (answer : Except Error Pid) with
    | .ok pid => table.Free pid ∧ table' = table.start pid
    | .error _ => table' = table
  | .signalGroup group signal, answer =>
    match (answer : Except Errno Unit) with
    | .ok () => table' = table.update group (·.signal signal)
    | .error _ => table' = table
  | .pollExit pid, answer =>
    match (answer : Except Error (Option ExitStatus)) with
    | .ok none => table.IsRunning pid ∧ table' = table
    | .ok (some status) => table.HasEnded pid status ∧ table' = table.update pid Family.reap
    | .error _ => table.IsGone pid ∧ table' = table
  | .awaitExit pid, answer =>
    match (answer : Except Error ExitStatus) with
    | .ok status => table.HasEnded pid status ∧ table' = table.update pid Family.reap
    | .error _ => table' = table
  | .awaitExitUntil pid _, answer =>
    match (answer : Option (Except Error ExitStatus)) with
    | some (.ok status) => table.HasEnded pid status ∧ table' = table.update pid Family.reap
    | _ => table' = table
  | .abandon pid, _ => table' = table.update pid Family.abandon
  | _, _ => table' = table

/-- The table as a host. -/
def host : Behaviour ProcessTable where
  begins := {}
  acts table table' := List.Forall₂ Family.Goes table.families table'.families
  answers table call answer table' := table.Answers table' call answer

/-- A host that tells the truth about groups: a signal or a probe finds nobody if and only if the group
is empty, nothing else keeps it from arriving, and no number is given twice. -/
def Truthful (table : ProcessTable) : (call : Call) → call.Answer → Prop
  | .spawn _, answer => ∀ pid, (answer : Except Error Pid) = .ok pid → ∀ f ∈ table.families, f.pid ≠ pid
  | .signalGroup group _, answer | .probeGroup group, answer =>
    match (answer : Except Errno Unit) with
    | .ok () => ∃ f ∈ table.families, f.pid = group ∧ ¬f.IsEmpty
    | .error errno => errno = Errno.noSuchProcess ∧ ∀ f ∈ table.families, f.pid = group → f.IsEmpty
  | _, _ => True

/-- The table as a host that tells the truth. -/
def truthfulHost : Behaviour ProcessTable where
  begins := {}
  acts := host.acts
  answers table call answer table' := table.Answers table' call answer ∧ table.Truthful call answer

/-- A caller's knowledge fits the table: all leaders have been reaped but the one it looks after, and
of that one it knows whether it has been. -/
def Agrees (table : ProcessTable) : Option Custody → Prop
  | none => ∀ f ∈ table.families, f.status?.isSome
  | some custody =>
    ∃ f older, table.families = f :: older ∧ (∀ g ∈ older, g.status?.isSome) ∧
      f.pid = custody.pid ∧ f.cared = true ∧ f.status? = custody.status?

theorem reaped_of_steady {before after : List Family} (h : List.Forall₂ Family.Steady before after)
    (hreaped : ∀ f ∈ before, f.status?.isSome) : ∀ g ∈ after, g.status?.isSome := by
  induction h with
  | nil => exact hreaped
  | @cons f g before after hsteady _ ih =>
      rw [List.forall_mem_cons] at hreaped ⊢
      refine ⟨?_, ih hreaped.2⟩
      rw [(hsteady.2 (Or.inr hreaped.1)).2]
      exact hreaped.1

theorem Agrees.of_steady {table table' : ProcessTable} {custody : Option Custody}
    (h : table.Agrees custody) (hsteady : List.Forall₂ Family.Steady table.families table'.families) :
    table'.Agrees custody := by
  cases custody with
  | none => exact reaped_of_steady hsteady h
  | some custody =>
      obtain ⟨f, older, hfamilies, holder, hpid, hcared, hstatus⟩ := h
      rw [hfamilies] at hsteady
      obtain ⟨g, older', hg, hrest, hfamilies'⟩ := List.forall₂_cons_left_iff.mp hsteady
      obtain ⟨hcared', hstatus'⟩ := hg.2 (Or.inl hcared)
      exact ⟨g, older', hfamilies', reaped_of_steady hrest holder, hg.1.trans hpid,
        hcared'.trans hcared, hstatus'.trans hstatus⟩

theorem Agrees.acts {table table' : ProcessTable} {custody : Option Custody} (h : table.Agrees custody)
    (hacts : host.acts table table') : table'.Agrees custody :=
  h.of_steady (hacts.imp fun _ _ hgoes => hgoes.steady)

theorem steady_update {families : List Family} (pid : Pid) {change : Family → Family}
    (h : ∀ f ∈ families, f.Steady (change f)) :
    List.Forall₂ Family.Steady families
      (families.map fun f => if f.pid = pid then change f else f) := by
  rw [List.forall₂_map_right_iff, List.forall₂_same]
  intro f hf
  split
  · exact h f hf
  · exact Family.Steady.refl f

/-- Only the child that is looked after can be reaped, and the caller learns how it ended. -/
theorem Agrees.reap {table : ProcessTable} {custody : Option Custody} (h : table.Agrees custody)
    {pid : Pid} {status : ExitStatus} (hended : table.HasEnded pid status) :
    (table.update pid Family.reap).Agrees
      (custody.map fun c => ⟨c.pid, some (c.status?.getD status)⟩) := by
  obtain ⟨f, hf, hpid, hleader⟩ := hended
  have hunreaped : f.status? = none := by simp only [Family.status?, hleader, Leader.status?]
  cases custody with
  | none =>
      have hreaped := h f hf
      rw [hunreaped] at hreaped
      cases hreaped
  | some custody =>
      obtain ⟨first, older, hfamilies, holder, hcustody, hcared, hstatus⟩ := h
      rw [hfamilies] at hf
      rcases List.mem_cons.mp hf with rfl | hmem
      · have hupdated : (table.update pid Family.reap).families =
            f.reap :: older.map fun g => if g.pid = pid then g.reap else g := by
          simp only [update, hfamilies, List.map_cons, if_pos hpid]
        have hsteady := steady_update pid fun g hg => Family.steady_reap (holder g hg)
        refine ⟨f.reap, _, hupdated, reaped_of_steady hsteady holder, ?_, ?_, ?_⟩
        · simp only [Family.reap, hleader, hcustody]
        · simp only [Family.reap, hleader, hcared]
        · simp only [← hstatus, Family.reap, hleader, Family.status?, Leader.status?, Option.getD_none]
      · have hreaped := holder f hmem
        rw [hunreaped] at hreaped
        cases hreaped

/-- A caller that follows the answers keeps agreeing with the table. -/
theorem Agrees.answers {table table' : ProcessTable} {custody : Option Custody}
    (h : table.Agrees custody) {call : Call} {answer : call.Answer}
    (hanswers : table.Answers table' call answer) (hspawn : call.IsSpawn → custody = none)
    (habandon : ∀ pid, call ≠ .abandon pid) :
    table'.Agrees (Custody.learn custody ⟨call, answer⟩) := by
  cases call with
  | spawn command =>
      rw [hspawn ⟨command, rfl⟩] at h ⊢
      rcases answer with cause | pid
      · rw [show table' = table from hanswers]
        exact h
      · obtain ⟨-, rfl⟩ := hanswers
        exact ⟨{ pid }, table.families, rfl, h, rfl, rfl, rfl⟩
  | signalGroup group signal =>
      rcases answer with errno | ⟨⟩
      · rw [show table' = table from hanswers]
        exact h
      · rw [show table' = _ from hanswers]
        exact h.of_steady (steady_update group fun f _ => f.steady_signal signal)
  | pollExit pid =>
      rcases answer with cause | _ | status
      · rw [hanswers.2]
        exact h
      · rw [hanswers.2]
        exact h
      · obtain ⟨hended, rfl⟩ := hanswers
        exact h.reap hended
  | awaitExit pid =>
      rcases answer with cause | status
      · rw [show table' = table from hanswers]
        exact h
      · obtain ⟨hended, rfl⟩ := hanswers
        exact h.reap hended
  | awaitExitUntil pid deadline =>
      rcases answer with _ | cause | status
      · rw [show table' = table from hanswers]
        exact h
      · rw [show table' = table from hanswers]
        exact h
      · obtain ⟨hended, rfl⟩ := hanswers
        exact h.reap hended
  | abandon pid => exact absurd rfl (habandon pid)
  | _ =>
      rw [show table' = table from hanswers]
      exact h

/-- A child that the caller knows to be unreaped can be looked at. -/
theorem Agrees.poll_ok {table table' : ProcessTable} {pid : Pid} (h : table.Agrees (some ⟨pid, none⟩))
    {answer : Except Error (Option ExitStatus)}
    (hanswers : table.Answers table' (.pollExit pid) answer) : ∃ found, answer = .ok found := by
  rcases answer with cause | found
  · obtain ⟨f, older, hfamilies, -, hpid, -, hstatus⟩ := h
    have hgone := hanswers.1 f (by rw [hfamilies]; exact List.mem_cons_self) hpid
    rw [hstatus] at hgone
    cases hgone
  · exact ⟨found, rfl⟩

/-- A child that has been reaped need not be looked after. -/
theorem Agrees.let_go {table : ProcessTable} {custody : Custody} (h : table.Agrees (some custody))
    (hreaped : custody.status?.isSome) : table.Agrees none := by
  obtain ⟨f, older, hfamilies, holder, -, -, hstatus⟩ := h
  intro g hg
  rw [hfamilies] at hg
  rcases List.mem_cons.mp hg with rfl | hmem
  · rw [hstatus]
    exact hreaped
  · exact holder g hmem

/-- All leaders but the last one have been reaped. -/
def Single (table : ProcessTable) : Prop := ∀ f ∈ table.families.tail, f.status?.isSome

theorem Agrees.single {table : ProcessTable} {custody : Option Custody} (h : table.Agrees custody) :
    table.Single := by
  cases custody with
  | none => exact fun f hf => h f (List.mem_of_mem_tail hf)
  | some custody =>
      obtain ⟨f, older, hfamilies, holder, -⟩ := h
      rw [Single, hfamilies]
      exact holder

theorem Single.acts {table table' : ProcessTable} (h : table.Single) (hacts : host.acts table table') :
    table'.Single := by
  obtain ⟨families⟩ := table
  obtain ⟨families'⟩ := table'
  cases hacts with
  | nil => exact h
  | cons _ hrest => exact reaped_of_steady (hrest.imp fun _ _ hgoes => hgoes.steady) h

theorem Single.abandon {table : ProcessTable} (h : table.Single) (pid : Pid) :
    (table.update pid Family.abandon).Single := by
  intro f hf
  rw [update, ← List.map_tail] at hf
  obtain ⟨g, hg, rfl⟩ := List.mem_map.mp hf
  split
  · exact (congrArg Option.isSome g.leader.status?_kill).trans (h g hg)
  · exact h g hg

/-- The process that was started last bears a number, and has ended or not. -/
def Newest (table : ProcessTable) (pid : Pid) (ended : Bool) : Prop :=
  ∃ f older, table.families = f :: older ∧ f.pid = pid ∧ f.leader.hasEnded = ended

theorem Agrees.newest_of_running {table : ProcessTable} {custody : Custody}
    (h : table.Agrees (some custody)) (hrunning : table.IsRunning custody.pid) :
    table.Newest custody.pid false := by
  obtain ⟨first, older, hfamilies, holder, hpid, -, -⟩ := h
  obtain ⟨f, hf, -, hleader⟩ := hrunning
  rw [hfamilies] at hf
  rcases List.mem_cons.mp hf with rfl | hmem
  · exact ⟨f, older, hfamilies, hpid, hleader⟩
  · rw [Leader.hasEnded_of_status (holder f hmem)] at hleader
    cases hleader

theorem Agrees.newest_of_reaped {table : ProcessTable} {custody : Custody}
    (h : table.Agrees (some custody)) (hreaped : custody.status?.isSome) :
    table.Newest custody.pid true := by
  obtain ⟨first, older, hfamilies, -, hpid, -, hstatus⟩ := h
  rw [← hstatus] at hreaped
  exact ⟨first, older, hfamilies, hpid, Leader.hasEnded_of_status hreaped⟩

/-- A process that has ended stays so. -/
theorem Newest.acts {table table' : ProcessTable} {pid : Pid} (h : table.Newest pid true)
    (hacts : host.acts table table') : table'.Newest pid true := by
  obtain ⟨f, older, hfamilies, rfl, hended⟩ := h
  have hgoes : List.Forall₂ Family.Goes table.families table'.families := hacts
  rw [hfamilies] at hgoes
  obtain ⟨g, older', hg, -, hfamilies'⟩ := List.forall₂_cons_left_iff.mp hgoes
  exact ⟨g, older', hfamilies', hg.steady.1, hg.hasEnded hended⟩

/-- The leaders that nobody has reaped. -/
def unreaped (table : ProcessTable) : List Family := table.families.filter (·.status?.isNone)

theorem unreaped_eq_nil {families : List Family} (h : ∀ f ∈ families, f.status?.isSome) :
    families.filter (·.status?.isNone) = [] := by
  rw [List.filter_eq_nil_iff]
  intro f hf hnone
  rw [Option.isNone_iff_eq_none] at hnone
  have hsome := h f hf
  rw [hnone] at hsome
  cases hsome

/-- At most one leader has not been reaped. -/
theorem Single.length_unreaped_le {table : ProcessTable} (h : table.Single) :
    table.unreaped.length ≤ 1 := by
  obtain ⟨families⟩ := table
  cases families with
  | nil => simp [unreaped]
  | cons f older =>
      have holder : ∀ g ∈ older, g.status?.isSome := h
      have hnil := unreaped_eq_nil holder
      rw [unreaped, List.filter_cons, hnil]
      split <;> simp

end ProcessTable

end ClockWarden.Host
