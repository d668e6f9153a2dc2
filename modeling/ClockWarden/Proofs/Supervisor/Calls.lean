import ClockWarden.Proofs.Supervisor.Sharing

/-! The calls in the history of a shared supervisor. Each is made once and answered at most once, after
it was made; so a call that was answered before another one was made stands before it among the
completed calls (`sublist_of_precedes`). -/

namespace ClockWarden.Supervisor

/-- A call that has been answered, and how the host stood then. -/
structure Completion (World : Type) where
  caller : Caller
  operation : Operation
  reply : Operation.Reply
  world : World

variable {World : Type}

/-- The call whose answer an event tells. -/
def Event.returned? : Event World → Option (Completion World)
  | .returned caller operation reply world => some ⟨caller, operation, reply, world⟩
  | _ => none

/-- The completed calls of a history, the last one first. -/
def completions (history : List (Event World)) : List (Completion World) :=
  history.filterMap Event.returned?

/-- A call was answered before another one was made. -/
def Precedes (history : List (Event World)) (first second : Caller) : Prop :=
  ∃ newer operation older, history = newer ++ .called second operation :: older ∧
    ∃ completion ∈ completions older, completion.caller = first

/-- A call has been answered. -/
def Answered (history : List (Event World)) (caller : Caller) : Prop :=
  ∃ completion ∈ completions history, completion.caller = caller

/-- Calls are made once, and answered once and not before they are made. -/
def Orderly : List (Event World) → Prop
  | [] => True
  | .called caller _ :: older => (∀ operation, .called caller operation ∉ older) ∧ Orderly older
  | .returned caller operation _ _ :: older =>
    .called caller operation ∈ older ∧ ¬Answered older caller ∧ Orderly older
  | _ :: older => Orderly older

theorem answered_cons_of_returned {caller other : Caller} {operation : Operation}
    {reply : Operation.Reply} {world : World} {older : List (Event World)} :
    Answered (.returned caller operation reply world :: older) other ↔
      caller = other ∨ Answered older other := by
  simp [Answered, completions, Event.returned?]

namespace Orderly

theorem older {newer older : List (Event World)} (h : Orderly (newer ++ older)) : Orderly older := by
  induction newer with
  | nil => exact h
  | cons event newer ih =>
      cases event with
      | called caller operation => exact ih h.2
      | returned caller operation reply world => exact ih h.2.2
      | exchanged caller exchange => exact ih h
      | givenUp caller => exact ih h

theorem called {history : List (Event World)} (h : Orderly history) {completion : Completion World}
    (hmem : completion ∈ completions history) :
    .called completion.caller completion.operation ∈ history := by
  induction history with
  | nil => cases hmem
  | cons event older ih =>
      cases event with
      | returned caller operation reply world =>
          rcases List.mem_cons.mp hmem with rfl | hmem
          · exact List.mem_cons_of_mem _ h.1
          · exact List.mem_cons_of_mem _ (ih h.2.2 hmem)
      | called caller operation => exact List.mem_cons_of_mem _ (ih h.2 hmem)
      | exchanged caller exchange => exact List.mem_cons_of_mem _ (ih h hmem)
      | givenUp caller => exact List.mem_cons_of_mem _ (ih h hmem)

/-- Every call has one operation. -/
theorem operation_unique {history : List (Event World)} (h : Orderly history) {caller : Caller}
    {operation operation' : Operation} (hmem : .called caller operation ∈ history)
    (hmem' : .called caller operation' ∈ history) : operation = operation' := by
  induction history with
  | nil => cases hmem
  | cons event history ih =>
      rcases List.mem_cons.mp hmem with rfl | hold
      · rcases List.mem_cons.mp hmem' with heq | hold'
        · cases heq
          rfl
        · exact absurd hold' (h.1 operation')
      · rcases List.mem_cons.mp hmem' with rfl | hold'
        · exact absurd hold (h.1 operation)
        · exact ih (@older _ [event] history h) hold hold'

theorem nodup {history : List (Event World)} (h : Orderly history) :
    ((completions history).map Completion.caller).Nodup := by
  induction history with
  | nil => exact List.nodup_nil
  | cons event older ih =>
      cases event with
      | returned caller operation reply world =>
          refine List.nodup_cons.mpr ⟨?_, ih h.2.2⟩
          intro hmem
          obtain ⟨completion, hcompletion, hcaller⟩ := List.mem_map.mp hmem
          exact h.2.1 ⟨completion, hcompletion, hcaller⟩
      | called caller operation => exact ih h.2
      | exchanged caller exchange => exact ih h
      | givenUp caller => exact ih h

/-- A call that was answered before another one was made is the earlier one of the two. -/
theorem sublist_of_precedes {history : List (Event World)} (h : Orderly history)
    {first second : Completion World} (hfirst : first ∈ completions history)
    (hsecond : second ∈ completions history)
    (hprecedes : Precedes history first.caller second.caller) :
    [second, first].Sublist (completions history) := by
  obtain ⟨newer, operation, older, rfl, completion, hcompletion, hcaller⟩ := hprecedes
  have hsplit : completions (newer ++ .called second.caller operation :: older) =
      completions newer ++ completions older := by
    rw [completions, List.filterMap_append]
    rfl
  have hnodup := h.nodup
  rw [hsplit] at hfirst hsecond hnodup ⊢
  rw [List.map_append] at hnodup
  have hdisjoint := (List.nodup_append.mp hnodup).2.2
  have holder : first ∈ completions older := by
    refine (List.mem_append.mp hfirst).resolve_left fun hnewer => ?_
    exact hdisjoint _ (List.mem_map_of_mem hnewer) _ (List.mem_map_of_mem hcompletion) hcaller.symm
  have hnewer : second ∈ completions newer := by
    refine (List.mem_append.mp hsecond).resolve_right fun hmem => ?_
    exact h.older.1 _ (h.older.2.called hmem)
  exact (List.singleton_sublist.mpr hnewer).append (List.singleton_sublist.mpr holder)

end Orderly

/-- The calls that have been made and are neither answered nor given up belong to different callers,
and the history tells of them. -/
structure Pending (calls : List (Caller × Operation)) (history : List (Event World)) : Prop where
  orderly : Orderly history
  distinct : (calls.map Prod.fst).Nodup
  called : ∀ call ∈ calls, .called call.1 call.2 ∈ history
  unanswered : ∀ call ∈ calls, ¬Answered history call.1

namespace Pending

variable {calls calls' : List (Caller × Operation)} {history : List (Event World)} {caller : Caller}
  {operation : Operation}

theorem perm (h : Pending calls history) (hperm : calls.Perm calls') : Pending calls' history :=
  ⟨h.orderly, (hperm.map Prod.fst).nodup_iff.mp h.distinct,
    fun call hmem => h.called call (hperm.mem_iff.mpr hmem),
    fun call hmem => h.unanswered call (hperm.mem_iff.mpr hmem)⟩

theorem leave (h : Pending ((caller, operation) :: calls) history) : Pending calls history :=
  ⟨h.orderly, (List.nodup_cons.mp h.distinct).2,
    fun call hmem => h.called call (List.mem_cons_of_mem _ hmem),
    fun call hmem => h.unanswered call (List.mem_cons_of_mem _ hmem)⟩

theorem call (h : Pending calls history) (hfresh : ∀ task, .called caller task ∉ history) :
    Pending ((caller, operation) :: calls) (.called caller operation :: history) := by
  refine ⟨⟨hfresh, h.orderly⟩, List.nodup_cons.mpr ⟨?_, h.distinct⟩, ?_, ?_⟩
  · intro hmem
    obtain ⟨call, hcall, hcaller⟩ := List.mem_map.mp hmem
    have hcalled := h.called call hcall
    rw [hcaller] at hcalled
    exact hfresh call.2 hcalled
  · intro call hmem
    rcases List.mem_cons.mp hmem with rfl | hmem
    · exact List.mem_cons_self
    · exact List.mem_cons_of_mem _ (h.called call hmem)
  · intro call hmem hanswered
    rcases List.mem_cons.mp hmem with rfl | hmem
    · obtain ⟨completion, hcompletion, hcaller⟩ := hanswered
      have hcalled := h.orderly.called hcompletion
      rw [hcaller] at hcalled
      exact hfresh _ hcalled
    · exact h.unanswered call hmem hanswered

theorem answer (h : Pending ((caller, operation) :: calls) history) (reply : Operation.Reply)
    (world : World) : Pending calls (.returned caller operation reply world :: history) := by
  refine ⟨⟨h.called _ List.mem_cons_self, h.unanswered _ List.mem_cons_self, h.orderly⟩,
    h.leave.distinct, fun call hmem => List.mem_cons_of_mem _ (h.leave.called call hmem), ?_⟩
  intro call hmem hanswered
  rcases answered_cons_of_returned.mp hanswered with heq | hanswered
  · refine (List.nodup_cons.mp h.distinct).1 ?_
    rw [show (caller, operation).1 = call.1 from heq]
    exact List.mem_map_of_mem hmem
  · exact h.leave.unanswered call hmem hanswered

/-- An event that neither makes nor answers a call changes nothing. -/
theorem event (h : Pending calls history) {event : Event World}
    (hcalled : ∀ caller operation, event ≠ .called caller operation)
    (hreturned : event.returned? = none) : Pending calls (event :: history) := by
  have hcompletions : completions (event :: history) = completions history :=
    List.filterMap_cons_none hreturned
  have horderly : Orderly (event :: history) := by
    cases event with
    | called caller operation => exact absurd rfl (hcalled caller operation)
    | returned caller operation reply world => cases hreturned
    | exchanged caller exchange => exact h.orderly
    | givenUp caller => exact h.orderly
  refine ⟨horderly, h.distinct, fun call hmem => List.mem_cons_of_mem _ (h.called call hmem), ?_⟩
  intro call hmem hanswered
  rw [Answered, hcompletions] at hanswered
  exact h.unanswered call hmem hanswered

end Pending

/-- The call of whoever has the supervisor. -/
def Seat.calls : Seat → List (Caller × Operation)
  | .taken caller operation _ => [(caller, operation)]
  | .vacant _ | .closing _ | .closed => []

namespace Shared

variable {behaviour : Host.Behaviour World} {deployment : Deployment}

/-- The calls that are under way or waiting are those that the history leaves open. -/
def Attended (s : Shared World) : Prop := Pending (s.seat.calls ++ s.waiting) s.history

theorem perm_waiting {calls waiting : List (Caller × Operation)} {call : Caller × Operation}
    (h : call ∈ waiting) : (calls ++ waiting).Perm (call :: (calls ++ waiting.erase call)) :=
  ((List.perm_cons_erase h).append_left calls).trans List.perm_middle

theorem attended_proceed {s : Shared World} {caller : Caller} {operation : Operation}
    {turn : Turn Operation.Underway Operation.Result}
    (h : Pending ((caller, operation) :: s.waiting) s.history) :
    (s.proceed caller operation turn).Attended := by
  cases turn with
  | goOn entries next => exact h
  | finish entries result => exact h.answer result.2 s.world

theorem attended_letGo {s : Shared World} {turn : Turn Discard Unit} (h : Pending s.waiting s.history) :
    (s.letGo turn).Attended := by
  cases turn <;> exact h

theorem Step.attended {s s' : Shared World} (hstep : Step behaviour s s') (h : s.Attended) :
    s'.Attended := by
  unfold Attended at h
  cases hstep with
  | host acts => exact h
  | call opened fresh => exact (h.call fresh).perm List.perm_middle.symm
  | refuse waits refused => exact (h.perm (perm_waiting waits)).answer _ s.world
  | acquire waits asks vacant =>
      rw [vacant] at h
      exact attended_proceed (h.perm (perm_waiting waits))
  | exchange taken answer answers =>
      rw [taken] at h
      exact attended_proceed (h.event (by simp) rfl)
  | giveUpWaiting waits => exact ((h.perm (perm_waiting waits)).leave).event (by simp) rfl
  | giveUp taken suspended =>
      rw [taken] at h
      exact h.leave.event (by simp) rfl
  | close vacant unused =>
      rw [vacant] at h
      exact attended_letGo h
  | closing closes answer answers =>
      rw [closes] at h
      exact attended_letGo (h.event (by simp) rfl)

theorem Reachable.attended {s : Shared World} (h : Reachable behaviour deployment s) : s.Attended := by
  induction h with
  | begin => exact ⟨trivial, List.nodup_nil, by simp [Seat.calls], by simp [Seat.calls]⟩
  | step _ hstep ih => exact hstep.attended ih

end Shared

end ClockWarden.Supervisor
