import ClockWarden.Proofs.Supervisor.Calls

/-! Each call on a shared supervisor goes as if no other call were made. The exchanges that the history
tells of a completed call are those of one run of its operation, from the supervisor that it found when
it acquired it to the one that it left (`carried_of_completion`). So what holds of every run of an
operation by itself holds of every call. -/

namespace ClockWarden.Supervisor

open Host

/-- A supervisor that nobody has, as some run on some host leads to it. -/
def Warden.Reachable (s : Warden) : Prop :=
  ∃ (World : Type) (behaviour : Behaviour World) (deployment : Deployment) (world : World),
    Shared.Reaches behaviour deployment world (.vacant s)

theorem Warden.Reachable.sound {s : Warden} (h : s.Reachable) : s.Sound := by
  obtain ⟨World, behaviour, deployment, world, h⟩ := h
  exact h.sound.1

namespace Operation

/-- How an operation is carried out from its beginning to its answer: whether the supervisor was
acquired, the exchanges with the host, and what they leave. -/
inductive Carried (s : Warden) (operation : Operation) : Bool → List Exchange → Result → Prop
  | refused {refusal : FakeTime.Refusal} (refused : operation.task = .error refusal) :
      Carried s operation false [] (s, .refused refusal)
  | acquired {task : Task} {exchanges : List Exchange} {result : Result}
      (asks : operation.task = .ok task)
      (run : Underway.machine.Runs (task.start s) exchanges result) :
      Carried s operation true exchanges result

end Operation

variable {World : Type}

/-- An exchange of a caller. -/
def Event.exchangeOf? (caller : Caller) : Event World → Option Exchange
  | .exchanged (some other) exchange => if other = caller then some exchange else none
  | _ => none

/-- The exchanges of a caller, the first one first. -/
def exchangesOf (history : List (Event World)) (caller : Caller) : List Exchange :=
  (history.filterMap (Event.exchangeOf? caller)).reverse

theorem exchangesOf_cons_of_ne {event : Event World} {caller : Caller}
    (h : ∀ exchange, event ≠ .exchanged (some caller) exchange) (history : List (Event World)) :
    exchangesOf (event :: history) caller = exchangesOf history caller := by
  have hnone : event.exchangeOf? caller = none := by
    cases event with
    | exchanged other exchange =>
        cases other with
        | none => rfl
        | some other =>
            refine if_neg ?_
            rintro rfl
            exact h exchange rfl
    | _ => rfl
  rw [exchangesOf, exchangesOf, List.filterMap_cons_none hnone]

theorem exchangesOf_cons_self (caller : Caller) (exchange : Exchange) (history : List (Event World)) :
    exchangesOf (.exchanged (some caller) exchange :: history) caller =
      exchangesOf history caller ++ [exchange] := by
  have hsome : Event.exchangeOf? caller (.exchanged (some caller) exchange : Event World) =
      some exchange := if_pos rfl
  rw [exchangesOf, exchangesOf, List.filterMap_cons_some hsome, List.reverse_cons]

/-- The exchanges of a caller stand in the history. -/
theorem mem_of_exchangesOf {history : List (Event World)} {caller : Caller} {exchange : Exchange}
    (h : exchange ∈ exchangesOf history caller) : .exchanged (some caller) exchange ∈ history := by
  obtain ⟨event, hevent, hexchange⟩ := List.mem_filterMap.mp (List.mem_reverse.mp h)
  cases event with
  | exchanged other found =>
      cases other with
      | none => cases hexchange
      | some other =>
          obtain ⟨rfl, hfound⟩ := Option.ite_none_right_eq_some.mp hexchange
          cases hfound
          exact hevent
  | _ => cases hexchange

/-- A completed call has been carried out on a supervisor that it had to itself. -/
def Completion.Carried (completion : Completion World) (history : List (Event World)) : Prop :=
  ∃ before acquired after, Warden.Reachable before ∧
    completion.operation.Carried before acquired (exchangesOf history completion.caller)
      (after, completion.reply)

theorem Completion.Carried.of_eq {completion : Completion World} {history history' : List (Event World)}
    (h : completion.Carried history)
    (heq : exchangesOf history' completion.caller = exchangesOf history completion.caller) :
    completion.Carried history' := by
  obtain ⟨before, acquired, after, hbefore, hcarried⟩ := h
  rw [← heq] at hcarried
  exact ⟨before, acquired, after, hbefore, hcarried⟩

/-- Whoever has the supervisor is in the middle of a run of its operation, those who wait have not begun,
and those who have been answered are through. -/
structure Isolated (seat : Seat) (waiting : List (Caller × Operation)) (history : List (Event World)) :
    Prop where
  uncalled : ∀ caller, (∀ operation, .called caller operation ∉ history) →
    exchangesOf history caller = []
  waits : ∀ call ∈ waiting, exchangesOf history call.1 = []
  taken : ∀ caller operation underway, seat = .taken caller operation underway →
    ∃ before task entries, Warden.Reachable before ∧ operation.task = .ok task ∧
      Operation.Underway.machine.Path (task.start before) (exchangesOf history caller)
        (.goOn entries underway)
  answered : ∀ completion ∈ completions history, completion.Carried history

namespace Isolated

variable {seat : Seat} {waiting waiting' : List (Caller × Operation)} {history : List (Event World)}
  {caller : Caller} {operation : Operation}

/-- A seat that nobody has asks for nothing. -/
theorem unseat (h : Isolated seat waiting history) (vacant : Seat)
    (hvacant : ∀ caller operation underway, vacant ≠ .taken caller operation underway) :
    Isolated vacant waiting history :=
  ⟨h.uncalled, h.waits, fun _ _ _ htaken => absurd htaken (hvacant _ _ _), h.answered⟩

theorem leave (h : Isolated seat waiting history) (hwaiting : ∀ call ∈ waiting', call ∈ waiting) :
    Isolated seat waiting' history :=
  ⟨h.uncalled, fun call hmem => h.waits call (hwaiting call hmem), h.taken, h.answered⟩

theorem call (h : Isolated seat waiting history) (hfresh : ∀ task, .called caller task ∉ history) :
    Isolated seat ((caller, operation) :: waiting) history := by
  refine ⟨h.uncalled, ?_, h.taken, h.answered⟩
  intro call hmem
  rcases List.mem_cons.mp hmem with rfl | hmem
  · exact h.uncalled caller hfresh
  · exact h.waits call hmem

/-- An event that is no exchange of a caller, and no answer, changes nothing. -/
theorem event (h : Isolated seat waiting history) {event : Event World}
    (hexchange : ∀ caller exchange, event ≠ .exchanged (some caller) exchange)
    (hreturned : event.returned? = none) : Isolated seat waiting (event :: history) := by
  have hsame (caller : Caller) : exchangesOf (event :: history) caller = exchangesOf history caller :=
    exchangesOf_cons_of_ne (hexchange caller) history
  refine ⟨?_, ?_, ?_, ?_⟩
  · intro caller huncalled
    rw [hsame]
    exact h.uncalled caller fun operation hmem => huncalled operation (List.mem_cons_of_mem _ hmem)
  · intro call hmem
    rw [hsame]
    exact h.waits call hmem
  · intro caller operation underway htaken
    rw [hsame]
    exact h.taken caller operation underway htaken
  · intro completion hmem
    rw [show completions (event :: history) = completions history from
      List.filterMap_cons_none hreturned] at hmem
    exact (h.answered completion hmem).of_eq (hsame _)

theorem answer (h : Isolated seat waiting history) {completion : Completion World}
    (hcarried : completion.Carried history) :
    Isolated seat waiting (.returned completion.caller completion.operation completion.reply
      completion.world :: history) := by
  have hsame (caller : Caller) : exchangesOf (.returned completion.caller completion.operation
      completion.reply completion.world :: history) caller = exchangesOf history caller :=
    exchangesOf_cons_of_ne (by simp) history
  refine ⟨?_, ?_, ?_, ?_⟩
  · intro caller huncalled
    rw [hsame]
    exact h.uncalled caller fun operation hmem => huncalled operation (List.mem_cons_of_mem _ hmem)
  · intro call hmem
    rw [hsame]
    exact h.waits call hmem
  · intro caller operation underway htaken
    rw [hsame]
    exact h.taken caller operation underway htaken
  · intro other hmem
    rcases List.mem_cons.mp hmem with rfl | hmem
    · exact hcarried.of_eq (hsame _)
    · exact (h.answered other hmem).of_eq (hsame _)

/-- An exchange of the caller that has the supervisor concerns no other call. -/
theorem exchange (h : Isolated seat waiting history)
    (hpending : Pending ((caller, operation) :: waiting) history) (exchange : Exchange) :
    Isolated .closed waiting (.exchanged (some caller) exchange :: history) := by
  have hsame {other : Caller} (hother : caller ≠ other) :
      exchangesOf (.exchanged (some caller) exchange :: history) other = exchangesOf history other :=
    exchangesOf_cons_of_ne (by simpa using hother) history
  refine ⟨?_, ?_, ?_, ?_⟩
  · intro other huncalled
    have hother : caller ≠ other := by
      rintro rfl
      exact huncalled operation (List.mem_cons_of_mem _ (hpending.called _ List.mem_cons_self))
    rw [hsame hother]
    exact h.uncalled other fun operation hmem => huncalled operation (List.mem_cons_of_mem _ hmem)
  · intro call hmem
    have hother : caller ≠ call.1 := by
      intro heq
      refine (List.nodup_cons.mp hpending.distinct).1 ?_
      rw [show (caller, operation).1 = call.1 from heq]
      exact List.mem_map_of_mem hmem
    rw [hsame hother]
    exact h.waits call hmem
  · exact fun _ _ _ htaken => (by cases htaken)
  · intro completion hmem
    have hother : caller ≠ completion.caller := by
      rintro rfl
      exact hpending.unanswered _ List.mem_cons_self ⟨completion, hmem, rfl⟩
    exact (h.answered completion hmem).of_eq (hsame hother)

end Isolated

namespace Shared

variable {behaviour : Behaviour World} {deployment : Deployment}

theorem isolated_proceed {s : Shared World} {caller : Caller} {operation : Operation}
    (h : Isolated .closed s.waiting s.history) {before : Warden} (hbefore : before.Reachable)
    {task : Operation.Task} (asks : operation.task = .ok task)
    {turn : Turn Operation.Underway Operation.Result}
    (hpath : Operation.Underway.machine.Path (task.start before) (exchangesOf s.history caller) turn) :
    Isolated (s.proceed caller operation turn).seat (s.proceed caller operation turn).waiting
      (s.proceed caller operation turn).history := by
  cases turn with
  | goOn entries next =>
      refine ⟨h.uncalled, h.waits, ?_, h.answered⟩
      intro caller' operation' underway htaken
      cases htaken
      exact ⟨before, task, entries, hbefore, asks, hpath⟩
  | finish entries result =>
      obtain ⟨after, reply⟩ := result
      have hrun := hpath.runs .finish
      rw [List.append_nil] at hrun
      have hcarried : Completion.Carried ⟨caller, operation, reply, s.world⟩ s.history :=
        ⟨before, true, after, hbefore, .acquired asks hrun⟩
      exact (h.answer hcarried).unseat (.vacant after) (by simp)

theorem isolated_letGo {s : Shared World} (h : Isolated .closed s.waiting s.history)
    (turn : Turn Discard Unit) :
    Isolated (s.letGo turn).seat (s.letGo turn).waiting (s.letGo turn).history := by
  cases turn with
  | goOn entries next => exact h.unseat (.closing next) (by simp)
  | finish entries result => exact h

theorem Step.isolated {s s' : Shared World} (hstep : Step behaviour s s')
    (hs : Reachable behaviour deployment s) (h : Isolated s.seat s.waiting s.history) :
    Isolated s'.seat s'.waiting s'.history := by
  have hpending := hs.attended
  cases hstep with
  | host acts => exact h
  | call opened fresh => exact (h.call fresh).event (by simp) rfl
  | @refuse caller operation refusal waits refused =>
      have hinitial : Warden.Reachable { deployment } :=
        ⟨World, behaviour, deployment, _, _, .begin, rfl, rfl⟩
      have hcarried : Completion.Carried ⟨caller, operation, .refused refusal, s.world⟩ s.history := by
        refine ⟨{ deployment }, false, { deployment }, hinitial, ?_⟩
        rw [h.waits _ waits]
        exact .refused refused
      exact (h.leave fun call hmem => List.mem_of_mem_erase hmem).answer hcarried
  | @acquire caller operation task warden waits asks vacant =>
      have hbefore : warden.Reachable := ⟨World, behaviour, deployment, s.world, s, hs, rfl, vacant⟩
      rw [Operation.start_of_task asks]
      have hleft : Isolated .closed (s.waiting.erase (caller, operation)) s.history :=
        (h.leave fun call hmem => List.mem_of_mem_erase hmem).unseat .closed (by simp)
      have hpath : Operation.Underway.machine.Path (task.start warden) (exchangesOf s.history caller)
          (task.start warden) := by
        rw [h.waits _ waits]
        exact .here
      exact @isolated_proceed _ (s.leave caller operation) _ _ hleft _ hbefore _ asks _ hpath
  | @exchange caller operation underway world taken answer answers =>
      obtain ⟨before, task, entries, hbefore, asks, hpath⟩ := h.taken caller operation underway taken
      rw [Attended, taken] at hpending
      have hnext := hpath.step answer
      rw [← exchangesOf_cons_self] at hnext
      exact @isolated_proceed _ (s.answered (some caller) ⟨underway.call, answer⟩ world) _ _
        (h.exchange hpending _) _ hbefore _ asks _ hnext
  | giveUpWaiting waits =>
      exact (h.leave fun call hmem => List.mem_of_mem_erase hmem).event (by simp) rfl
  | @giveUp caller operation underway taken suspended =>
      exact (h.unseat (.vacant underway.interrupted) (by simp)).event (by simp) rfl
  | close vacant unused => exact isolated_letGo (h.unseat .closed (by simp)) _
  | @closing discard world closes answer answers =>
      have hclosed : Isolated .closed s.waiting (.exchanged none ⟨discard.call, answer⟩ :: s.history) :=
        (h.event (by simp) rfl).unseat .closed (by simp)
      exact @isolated_letGo _ (s.answered none ⟨discard.call, answer⟩ world) hclosed _

theorem Reachable.isolated {s : Shared World} (h : Reachable behaviour deployment s) :
    Isolated s.seat s.waiting s.history := by
  induction h with
  | begin =>
      refine ⟨fun _ _ => rfl, ?_, ?_, ?_⟩
      · exact fun call hmem => (by cases hmem)
      · exact fun caller operation underway htaken => (by cases htaken)
      · exact fun completion hmem => (by cases hmem)
  | step hreachable hstep ih => exact hstep.isolated hreachable ih

/-- Every completed call has been carried out as if no other call were made. -/
theorem Reachable.carried_of_completion {s : Shared World} (h : Reachable behaviour deployment s) :
    ∀ completion ∈ completions s.history, completion.Carried s.history := h.isolated.answered

end Shared

end ClockWarden.Supervisor
