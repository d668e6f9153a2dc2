import ClockWarden.Proofs.Host.ProcessTable

/-! What killing signals do to the groups in a process table. A group whose living processes have all
been reached by a killing signal stays so, for only a process that was spared can fork
(`Family.Calm`); and on a host that tells the truth a killing signal reaches all of a group, and a probe
that finds nobody is right (`not_spares_of_clears`). -/

namespace ClockWarden.Host

/-- The child or the group that a call is about. -/
def Call.subject? : Call → Option Pid
  | .signalGroup group _ => some group
  | .probeGroup group => some group
  | .pollExit pid => some pid
  | .awaitExit pid => some pid
  | .awaitExitUntil pid _ => some pid
  | _ => none

namespace Exchange

/-- An exchange that reaps a child. -/
def Reaps (pid : Pid) (exchange : Exchange) : Prop :=
  exchange.call.subject? = some pid ∧ exchange.reaped?.isSome

/-- Whoever is reaped is the subject of the call. -/
theorem subject?_isSome_of_reaped {exchange : Exchange} (h : exchange.reaped?.isSome) :
    exchange.call.subject?.isSome := by
  obtain ⟨call, answer⟩ := exchange
  cases call <;> first | rfl | cases h

/-- An exchange that leaves nobody of a group alive and spared, if the host tells the truth: a killing
signal, or a probe that finds the group empty. -/
def Clears (group : Pid) (exchange : Exchange) : Prop :=
  exchange.Kills group ∨ exchange.FindsEmpty group

theorem Clears.subject? {group : Pid} {exchange : Exchange} (h : exchange.Clears group) :
    exchange.call.subject? = some group := by
  rcases h with ⟨answer, rfl⟩ | ⟨errno, rfl⟩ <;> rfl

theorem Clears.spawned? {group : Pid} {exchange : Exchange} (h : exchange.Clears group) :
    exchange.spawned? = none := by
  rcases h with ⟨answer, rfl⟩ | ⟨errno, rfl⟩ <;> rfl

end Exchange

namespace Family

/-- The number stays, and nobody is spared who was not before. -/
def Calm (f g : Family) : Prop := g.pid = f.pid ∧ (¬f.Spares → ¬g.Spares)

theorem Calm.refl (f : Family) : f.Calm f := ⟨rfl, id⟩

theorem not_spares_kill (f : Family) : ¬f.kill.Spares := by
  rintro (⟨member, hmember, hspared⟩ | ⟨hinside, hleader⟩)
  · obtain ⟨-, -, rfl⟩ := List.mem_map.mp hmember
    cases hspared
  · have hin : f.inside = true := hinside
    simp only [kill, hin, if_true] at hleader
    cases hrunning : f.leader <;> simp [hrunning, Leader.kill] at hleader

theorem not_spares_of_isEmpty {f : Family} (h : f.IsEmpty) : ¬f.Spares := by
  rintro (⟨member, hmember, -⟩ | ⟨hinside, hleader⟩)
  · rw [h.1] at hmember
    cases hmember
  · have hreaped := h.2 hinside
    rw [status?, hleader] at hreaped
    cases hreaped

theorem calm_signal (f : Family) (signal : Signal) : f.Calm (f.signal signal) := by
  unfold Family.signal
  split
  · exact ⟨rfl, fun _ => f.not_spares_kill⟩
  · exact Calm.refl f

theorem calm_reap (f : Family) : f.Calm f.reap := by
  unfold reap
  split
  · refine ⟨rfl, fun hspares => ?_⟩
    rintro (hmember | ⟨-, hleader⟩)
    · exact hspares (Or.inl hmember)
    · cases hleader
  · exact Calm.refl f

theorem calm_abandon (f : Family) : f.Calm f.abandon := by
  refine ⟨rfl, fun hspares => ?_⟩
  rintro (hmember | ⟨hinside, hleader⟩)
  · exact hspares (Or.inl hmember)
  · have hkill : f.leader.kill = .running false := hleader
    cases hrunning : f.leader <;> simp [hrunning, Leader.kill] at hkill

/-- Only a process that was spared can bring another one that is spared. -/
theorem Goes.calm {f g : Family} (h : f.Goes g) : f.Calm g := by
  cases h with
  | rests => exact Calm.refl f
  | forks spared => exact ⟨rfl, fun hspares => absurd spared hspares⟩
  | leaves runs =>
      refine ⟨rfl, fun hspares => ?_⟩
      rintro (hmember | ⟨hinside, -⟩)
      · exact hspares (Or.inl hmember)
      · cases hinside
  | @shrinks before after member has =>
      refine ⟨rfl, fun hspares => ?_⟩
      rintro (⟨other, hother, hspared⟩ | hleader)
      · refine hspares (Or.inl ⟨other, ?_, hspared⟩)
        rw [has]
        exact (List.mem_append.mp hother).elim (List.mem_append_left _)
          (fun hafter => List.mem_append_right _ (List.mem_cons_of_mem _ hafter))
      · exact hspares (Or.inr hleader)
  | _ =>
      refine ⟨rfl, fun hspares => ?_⟩
      rintro (hmember | ⟨-, hleader⟩)
      · exact hspares (Or.inl hmember)
      · cases hleader

theorem forall₂_calm_refl (families : List Family) : List.Forall₂ Calm families families :=
  List.forall₂_same.mpr fun f _ => Calm.refl f

theorem map_pid_of_calm {before after : List Family} (h : List.Forall₂ Calm before after) :
    after.map Family.pid = before.map Family.pid := by
  induction h with
  | nil => rfl
  | cons hcalm _ ih => rw [List.map_cons, List.map_cons, hcalm.1, ih]

/-- Nobody is spared in the groups of some numbers who was not before. -/
theorem not_spares_of_calm {before after : List Family} (h : List.Forall₂ Calm before after)
    (numbers : Pid → Prop) (hspares : ∀ f ∈ before, numbers f.pid → ¬f.Spares) :
    ∀ g ∈ after, numbers g.pid → ¬g.Spares := by
  induction h with
  | nil => exact hspares
  | @cons f g before after hcalm _ ih =>
      rw [List.forall_mem_cons] at hspares ⊢
      refine ⟨?_, ih hspares.2⟩
      rw [hcalm.1]
      exact fun hnumber => hcalm.2 (hspares.1 hnumber)

end Family

namespace ProcessTable

theorem calm_update (table : ProcessTable) (pid : Pid) {change : Family → Family}
    (h : ∀ f : Family, f.Calm (change f)) :
    List.Forall₂ Family.Calm table.families (table.update pid change).families := by
  unfold update
  rw [List.forall₂_map_right_iff, List.forall₂_same]
  intro f _
  split
  · exact h f
  · exact Family.Calm.refl f

/-- A call makes a family, or leaves the families with nobody spared that was not before. -/
theorem Answers.families {table table' : ProcessTable} {call : Call} {answer : call.Answer}
    (h : table.Answers table' call answer) :
    (∃ pid, Exchange.spawned? ⟨call, answer⟩ = some pid ∧ table' = table.start pid) ∨
      Exchange.spawned? ⟨call, answer⟩ = none ∧
        List.Forall₂ Family.Calm table.families table'.families := by
  have hrefl := Family.forall₂_calm_refl table.families
  have hreap (pid : Pid) := table.calm_update pid Family.calm_reap
  cases call with
  | spawn command =>
      rcases answer with cause | pid
      · rw [show table' = table from h]
        exact Or.inr ⟨rfl, hrefl⟩
      · exact Or.inl ⟨pid, rfl, h.2⟩
  | signalGroup group signal =>
      refine Or.inr ⟨rfl, ?_⟩
      rcases answer with errno | ⟨⟩
      · rw [show table' = table from h]
        exact hrefl
      · rw [show table' = _ from h]
        exact table.calm_update group fun f => f.calm_signal signal
  | pollExit pid =>
      refine Or.inr ⟨rfl, ?_⟩
      rcases answer with cause | _ | status
      · rw [h.2]
        exact hrefl
      · rw [h.2]
        exact hrefl
      · rw [h.2]
        exact hreap pid
  | awaitExit pid =>
      refine Or.inr ⟨rfl, ?_⟩
      rcases answer with cause | status
      · rw [show table' = table from h]
        exact hrefl
      · rw [h.2]
        exact hreap pid
  | awaitExitUntil pid deadline =>
      refine Or.inr ⟨rfl, ?_⟩
      rcases answer with _ | cause | status
      · rw [show table' = table from h]
        exact hrefl
      · rw [show table' = table from h]
        exact hrefl
      · rw [h.2]
        exact hreap pid
  | abandon pid =>
      refine Or.inr ⟨rfl, ?_⟩
      rw [show table' = _ from h]
      exact table.calm_update pid Family.calm_abandon
  | _ =>
      refine Or.inr ⟨rfl, ?_⟩
      rw [show table' = table from h]
      exact hrefl

/-- On a host that tells the truth a group that has been cleared has nobody alive and spared. -/
theorem not_spares_of_clears {table table' : ProcessTable} {call : Call} {answer : call.Answer}
    (hanswers : table.Answers table' call answer) (htruth : table.Truthful call answer) {group : Pid}
    (h : Exchange.Clears group ⟨call, answer⟩) :
    ∀ f ∈ table'.families, f.pid = group → ¬f.Spares := by
  intro f hf hpid
  rcases h with ⟨answer', hexchange⟩ | ⟨errno, hexchange⟩ <;> cases hexchange
  · rcases answer' with errno | ⟨⟩
    · rw [show table' = table from hanswers] at hf
      exact Family.not_spares_of_isEmpty (htruth.2 f hf hpid)
    · rw [show table' = _ from hanswers] at hf
      obtain ⟨g, -, rfl⟩ := List.mem_map.mp hf
      split
      · exact g.not_spares_kill
      · rename_i hother
        exact absurd (by simpa only [if_neg hother] using hpid) hother
  · rw [show table' = table from hanswers] at hf
    exact Family.not_spares_of_isEmpty (htruth.2 f hf hpid)

end ProcessTable

end ClockWarden.Host
