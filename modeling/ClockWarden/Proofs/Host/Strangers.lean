import ClockWarden.Proofs.Host.Killing

/-! A process table among processes that belong to others. The host gives a number to such a stranger, as
its own and its group's, as soon as no process of the table bears it, be it one that has ended and was
not reaped. So the number of a stranger is free in the table, and stays so (`Apart`). -/

namespace ClockWarden.Host

namespace Family

/-- Nobody bears the number of a family. -/
def IsGone (f : Family) : Prop := f.IsEmpty ∧ f.status?.isSome

theorem Goes.isGone {f g : Family} (h : f.Goes g) (hgone : f.IsGone) : g.IsGone := by
  obtain ⟨hempty, hreaped⟩ := hgone
  cases h with
  | rests => exact ⟨hempty, hreaped⟩
  | ends runs => simp [status?, runs, Leader.status?] at hreaped
  | leaves runs => simp [status?, runs, Leader.status?] at hreaped
  | forks spared => exact absurd spared (not_spares_of_isEmpty hempty)
  | shrinks has =>
      rw [hempty.1] at has
      simp at has
  | released ended abandoned => exact ⟨⟨hempty.1, fun _ => rfl⟩, rfl⟩

theorem isGone_signal {f : Family} (h : f.IsGone) (signal : Signal) : (f.signal signal).IsGone := by
  obtain ⟨hempty, hreaped⟩ := h
  have hstatus : (f.signal signal).status?.isSome := by
    rw [((f.steady_signal signal).2 (Or.inr hreaped)).2]
    exact hreaped
  refine ⟨⟨?_, fun _ => hstatus⟩, hstatus⟩
  unfold Family.signal
  split
  · simp only [kill, hempty.1, List.map_nil]
  · exact hempty.1

theorem isGone_reap {f : Family} (h : f.IsGone) : f.reap.IsGone := by
  unfold reap
  split
  · exact ⟨⟨h.1.1, fun _ => rfl⟩, rfl⟩
  · exact h

theorem isGone_abandon {f : Family} (h : f.IsGone) : f.abandon.IsGone := by
  have hstatus : f.abandon.status?.isSome := by
    rw [status?, abandon, Leader.status?_kill]
    exact h.2
  exact ⟨⟨h.1.1, fun _ => hstatus⟩, hstatus⟩

end Family

namespace ProcessTable

theorem Free.acts {table table' : ProcessTable} {pid : Pid} (h : table.Free pid)
    (hacts : host.acts table table') : table'.Free pid := by
  obtain ⟨families⟩ := table
  obtain ⟨families'⟩ := table'
  have hgoes : List.Forall₂ Family.Goes families families' := hacts
  clear hacts
  unfold Free at h ⊢
  induction hgoes with
  | nil => exact h
  | @cons f g before after hgoes _ ih =>
      rw [List.forall_mem_cons] at h ⊢
      exact ⟨fun hpid => hgoes.isGone (h.1 (hgoes.steady.1.symm.trans hpid)), ih h.2⟩

theorem Free.update {table : ProcessTable} {pid : Pid} (h : table.Free pid) (group : Pid)
    {change : Family → Family} (hpid : ∀ f : Family, (change f).pid = f.pid)
    (hgone : ∀ f : Family, f.IsGone → (change f).IsGone) : (table.update group change).Free pid := by
  intro g hg hsame
  obtain ⟨f, hf, rfl⟩ := List.mem_map.mp hg
  split at hsame
  · rename_i hgroup
    rw [if_pos hgroup]
    rw [hpid] at hsame
    exact hgone f (h f hf hsame)
  · rename_i hgroup
    rw [if_neg hgroup]
    exact h f hf hsame

/-- A number stays free until a process is started with it. -/
theorem Free.answers {table table' : ProcessTable} {pid : Pid} (h : table.Free pid) {call : Call}
    {answer : call.Answer} (hanswers : table.Answers table' call answer)
    (hspawn : Exchange.spawned? ⟨call, answer⟩ ≠ some pid) : table'.Free pid := by
  have hreap (child : Pid) : (table.update child Family.reap).Free pid :=
    h.update child (fun f => f.calm_reap.1) fun _ => Family.isGone_reap
  cases call with
  | spawn command =>
      rcases answer with cause | child
      · rw [show table' = table from hanswers]
        exact h
      · obtain ⟨-, rfl⟩ := hanswers
        intro f hf hpid
        rcases List.mem_cons.mp hf with rfl | hf
        · exact absurd (congrArg some hpid) hspawn
        · exact h f hf hpid
  | signalGroup group signal =>
      rcases answer with errno | ⟨⟩
      · rw [show table' = table from hanswers]
        exact h
      · rw [show table' = _ from hanswers]
        exact h.update group (fun f => (f.calm_signal signal).1) fun _ hgone =>
          Family.isGone_signal hgone signal
  | pollExit child =>
      rcases answer with cause | _ | status
      · rw [hanswers.2]
        exact h
      · rw [hanswers.2]
        exact h
      · rw [hanswers.2]
        exact hreap child
  | awaitExit child =>
      rcases answer with cause | status
      · rw [show table' = table from hanswers]
        exact h
      · rw [hanswers.2]
        exact hreap child
  | awaitExitUntil child deadline =>
      rcases answer with _ | cause | status
      · rw [show table' = table from hanswers]
        exact h
      · rw [show table' = table from hanswers]
        exact h
      · rw [hanswers.2]
        exact hreap child
  | abandon child =>
      rw [show table' = _ from hanswers]
      exact h.update child (fun f => f.calm_abandon.1) fun _ => Family.isGone_abandon
  | _ =>
      rw [show table' = table from hanswers]
      exact h

end ProcessTable

/-- A process table, and the numbers of processes that belong to others. -/
structure Neighborhood where
  table : ProcessTable := {}
  strangers : List Pid := []

namespace Neighborhood

/-- What happens by itself: the own processes go on, and strangers come and go. -/
inductive Acts : Neighborhood → Neighborhood → Prop
  | own {n : Neighborhood} {table : ProcessTable} (acts : ProcessTable.host.acts n.table table) :
      Acts n { n with table }
  | comes {n : Neighborhood} {pid : Pid} (free : n.table.Free pid) :
      Acts n { n with strangers := pid :: n.strangers }
  | goes {n : Neighborhood} (pid : Pid) : Acts n { n with strangers := n.strangers.erase pid }

/-- The neighborhood as a host. It starts no process with the number of a stranger. -/
def host : Behaviour Neighborhood where
  begins := {}
  acts := Acts
  answers n call answer n' :=
    n.table.Answers n'.table call answer ∧ n'.strangers = n.strangers ∧
      ∀ pid, Exchange.spawned? ⟨call, answer⟩ = some pid → pid ∉ n.strangers

/-- No process of the table bears the number of a stranger. -/
def Apart (n : Neighborhood) : Prop := ∀ pid ∈ n.strangers, n.table.Free pid

theorem Apart.acts {n n' : Neighborhood} (h : n.Apart) (hacts : Acts n n') : n'.Apart := by
  cases hacts with
  | own acts => exact fun pid hpid => (h pid hpid).acts acts
  | comes free =>
      intro pid hpid
      rcases List.mem_cons.mp hpid with rfl | hpid
      · exact free
      · exact h pid hpid
  | goes left => exact fun pid hpid => h pid (List.mem_of_mem_erase hpid)

theorem Apart.answers {n n' : Neighborhood} (h : n.Apart) {call : Call} {answer : call.Answer}
    (hanswers : host.answers n call answer n') : n'.Apart := by
  obtain ⟨htable, hsame, hspawn⟩ := hanswers
  intro pid hpid
  rw [hsame] at hpid
  exact (h pid hpid).answers htable fun hstarted => hspawn pid hstarted hpid

end Neighborhood

end ClockWarden.Host
