import ClockWarden.Proofs.Supervisor.Isolation
import ClockWarden.Proofs.Supervisor.Linearization

/-! Calls that are given up. A call that has the supervisor can be given up only while it stops the old
process; it has started nothing by then, and all its signals have gone to the group of that process
(`path_stops`). The process is managed as before, and nothing was counted (`Step.abandons`). A call that
was given up does nothing more (`Reachable.departed`). -/

namespace ClockWarden.Supervisor

open Host

variable {World : Type}

namespace Operation

/-- An exchange that starts no process, and sends no signal but to the group of a handle. -/
def Stops (handle : Handle) (exchange : Exchange) : Prop :=
  ¬exchange.call.IsSpawn ∧
    ∀ group signal, exchange.call.signal? = some (group, signal) → group = handle.group

theorem Stops.of_same {handle other : Handle} {exchange : Exchange} (h : Stops handle exchange)
    (hsame : other.Same handle) : Stops other exchange :=
  ⟨h.1, fun group signal hsent => (h.2 group signal hsent).trans hsame.1.symm⟩

theorem stops_termination (t : Termination) (answer : t.call.Answer) :
    Stops t.handle ⟨t.call, answer⟩ := by
  refine ⟨t.call_not_spawn, ?_⟩
  intro group signal hsent
  obtain ⟨handle, grace, stage⟩ := t
  cases stage <;> cases hsent <;> rfl

namespace Underway

/-- Only the old process is waited for. -/
theorem stopping_of_suspends {u : Underway} (h : u.call.suspends = true) :
    ∃ aim termination, u.stage = .stopping aim termination := by
  obtain ⟨deployment, launches, stage⟩ := u
  cases stage with
  | stopping aim termination => exact ⟨aim, termination, rfl⟩
  | launching launch =>
      obtain ⟨program, environment, time, stage⟩ := launch
      cases stage <;> cases h
  | discarding discard =>
      obtain ⟨handle, stage⟩ := discard
      cases stage <;> cases h
  | _ => cases h

theorem not_stopping_retired (u : Underway) (aim : Aim) (result : Termination.Result) :
    (u.retired aim result).Leads (fun next => ∀ aim' t, next.stage ≠ .stopping aim' t)
      (fun _ => True) := by
  obtain ⟨left, outcome⟩ := result
  cases outcome with
  | stopped status => cases aim <;> simp [retired, vacated, goOn, finish]
  | _ => exact trivial

/-- Nothing but stopping a process leads to stopping it. -/
theorem receive_stopping {u : Underway} (hsound : u.stage.Sound) (answer : u.call.Answer) :
    (u.receive answer).Leads
      (fun next => ∀ aim after, next.stage = .stopping aim after →
        ∃ before, u.stage = .stopping aim before ∧ after.handle.Same before.handle)
      (fun _ => True) := by
  obtain ⟨deployment, launches, stage⟩ := u
  cases stage with
  | stopping aim termination =>
      refine (Turn.leads_within _).mpr ((Termination.receive_leads hsound answer).imp ?_ ?_)
      · rintro next ⟨-, hhandle⟩ aim' after hstage
        cases hstage
        refine ⟨termination, rfl, ?_⟩
        rw [hhandle]
        exact termination.handle.same_learn _
      · intro result _
        exact (not_stopping_retired _ aim result).imp
          (fun next hnext aim' after hstage => absurd hstage (hnext aim' after)) (fun _ _ => trivial)
  | inheriting time => exact fun aim after hstage => (by cases hstage)
  | launching launch =>
      obtain ⟨program, environment, time, stage⟩ := launch
      cases stage with
      | spawning =>
          rcases answer with cause | pid
          · exact trivial
          · exact fun aim after hstage => (by cases hstage)
      | stamping pid => exact trivial
  | polling handle =>
      refine (Turn.leads_after [] (inspected _ (handle.inspected answer))).mpr ?_
      obtain ⟨left, runs⟩ := handle.inspected answer
      cases runs with
      | true => exact trivial
      | false =>
          refine (Turn.leads_after _ _).mpr ((Turn.leads_within _).mpr ?_)
          cases Discard.start left with
          | goOn entries next => exact fun aim after hstage => (by cases hstage)
          | finish entries result => exact trivial
  | discarding discard =>
      refine (Turn.leads_within _).mpr ?_
      cases discard.receive answer with
      | goOn entries next => exact fun aim after hstage => (by cases hstage)
      | finish entries result => exact trivial

theorem path_sound {s : Warden} (hs : s.Sound) {task : Task} {exchanges : List Exchange}
    {turn : Turn Underway Result} (h : machine.Path (task.start s) exchanges turn) :
    turn.Leads (fun next => next.stage.Sound) (fun _ => True) := by
  induction h with
  | here => exact (Task.start_sound hs task).imp (fun next hnext => hnext.1) (fun _ _ => trivial)
  | step path answer ih =>
      exact (keeps_receive ih answer).imp (fun next hnext => hnext.1) (fun _ _ => trivial)

/-- What a call that is stopping a process has done so far belongs to stopping it. -/
theorem path_stops {s : Warden} (hs : s.Sound) {task : Task} {exchanges : List Exchange}
    {turn : Turn Underway Result} (h : machine.Path (task.start s) exchanges turn) :
    turn.Leads
      (fun next => ∀ aim t, next.stage = .stopping aim t →
        ∀ exchange ∈ exchanges, Stops t.handle exchange)
      (fun _ => True) := by
  induction h with
  | here => cases task.start s <;> simp
  | @step exchanges entries u path answer ih =>
      refine (receive_stopping (path_sound hs path) answer).imp ?_ (fun _ _ => trivial)
      intro next hnext aim after hstage exchange hmem
      obtain ⟨before, hbefore, hsame⟩ := hnext aim after hstage
      refine Stops.of_same ?_ hsame
      rcases List.mem_append.mp hmem with hmem | hmem
      · exact ih aim before hbefore exchange hmem
      · obtain rfl := List.mem_singleton.mp hmem
        obtain ⟨deployment, launches, stage⟩ := u
        obtain rfl : stage = _ := hbefore
        exact stops_termination before answer

end Underway

end Operation

namespace Shared

variable {behaviour : Behaviour World} {deployment : Deployment}

/-- What a call has done by the time that it can be given up. -/
theorem Reachable.stops_of_suspends {s : Shared World} (h : Reachable behaviour deployment s)
    {caller : Caller} {operation : Operation} {underway : Operation.Underway}
    (htaken : s.seat = .taken caller operation underway) (hsuspended : underway.call.suspends = true) :
    ∃ aim termination, underway.stage = .stopping aim termination ∧ termination.Sound ∧
      ∀ exchange ∈ exchangesOf s.history caller, Operation.Stops termination.handle exchange := by
  obtain ⟨aim, termination, hstage⟩ := Operation.Underway.stopping_of_suspends hsuspended
  obtain ⟨before, task, entries, hbefore, -, hpath⟩ := h.isolated.taken caller operation underway htaken
  obtain ⟨World', behaviour', deployment', world, s', hs', -, hseat⟩ := hbefore
  have hvacant := hs'.sound
  rw [hseat] at hvacant
  have hsound := h.sound
  rw [htaken] at hsound
  have htermination : underway.stage.Sound := hsound.1
  rw [hstage] at htermination
  exact ⟨aim, termination, hstage, htermination,
    Operation.Underway.path_stops hvacant.1 hpath aim termination hstage⟩

/-- A call that was given up is neither waiting nor under way, and it has neither started a process nor
been answered. -/
structure Departed (calls : List (Caller × Operation)) (history : List (Event World))
    (caller : Caller) : Prop where
  called : ∃ operation, .called caller operation ∈ history
  absent : ∀ call ∈ calls, call.1 ≠ caller
  unanswered : ¬Answered history caller
  idle : ∀ exchange ∈ exchangesOf history caller, ¬exchange.call.IsSpawn

namespace Departed

variable {calls calls' : List (Caller × Operation)} {history : List (Event World)} {caller : Caller}

theorem mono (h : Departed calls history caller) (hcalls : ∀ call ∈ calls', call ∈ calls) :
    Departed calls' history caller :=
  ⟨h.called, fun call hmem => h.absent call (hcalls call hmem), h.unanswered, h.idle⟩

/-- What happens to others changes nothing. -/
theorem event (h : Departed calls history caller) {event : Event World}
    (hexchange : ∀ exchange, event ≠ .exchanged (some caller) exchange)
    (hreturned : ∀ operation reply world, event ≠ .returned caller operation reply world) :
    Departed calls (event :: history) caller := by
  obtain ⟨operation, hcalled⟩ := h.called
  refine ⟨⟨operation, List.mem_cons_of_mem _ hcalled⟩, h.absent, ?_, ?_⟩
  · rintro ⟨completion, hmem, hcaller⟩
    cases event with
    | returned other operation reply world =>
        rcases List.mem_cons.mp hmem with rfl | hmem
        · cases hcaller
          exact hreturned operation reply world rfl
        · exact h.unanswered ⟨completion, hmem, hcaller⟩
    | _ => exact h.unanswered ⟨completion, hmem, hcaller⟩
  · rw [exchangesOf_cons_of_ne hexchange]
    exact h.idle

/-- The next turn of another call changes nothing. -/
theorem proceed {s : Shared World} {other : Caller} {operation : Operation}
    (h : Departed s.waiting s.history caller) (hother : other ≠ caller)
    (turn : Turn Operation.Underway Operation.Result) :
    Departed ((s.proceed other operation turn).seat.calls ++ (s.proceed other operation turn).waiting)
      (s.proceed other operation turn).history caller := by
  cases turn with
  | goOn entries next =>
      refine ⟨h.called, ?_, h.unanswered, h.idle⟩
      intro call hmem
      rcases List.mem_cons.mp hmem with rfl | hmem
      · exact hother
      · exact h.absent call hmem
  | finish entries result => exact h.event (by simp) (by simp [hother])

/-- A call that is given up departs, if it has started nothing. -/
theorem of_givenUp {operation : Operation} (h : Pending ((caller, operation) :: calls) history)
    (idle : ∀ exchange ∈ exchangesOf history caller, ¬exchange.call.IsSpawn) :
    Departed calls (.givenUp caller :: history) caller := by
  have hlater : Departed calls history caller := by
    refine ⟨⟨operation, h.called _ List.mem_cons_self⟩, ?_, h.unanswered _ List.mem_cons_self, idle⟩
    intro call hmem hcaller
    refine (List.nodup_cons.mp h.distinct).1 ?_
    rw [show (caller, operation).1 = call.1 from hcaller.symm]
    exact List.mem_map_of_mem hmem
  exact hlater.event (by simp) (by simp)

end Departed

theorem givenUp_of_proceed {s : Shared World} {caller departed : Caller} {operation : Operation}
    {turn : Turn Operation.Underway Operation.Result}
    (h : .givenUp departed ∈ (s.proceed caller operation turn).history) :
    .givenUp departed ∈ s.history := by
  cases turn <;> simpa [proceed] using h

theorem Step.departed {s s' : Shared World} (hstep : Step behaviour s s')
    (hs : Reachable behaviour deployment s)
    (h : ∀ caller, .givenUp caller ∈ s.history → Departed (s.seat.calls ++ s.waiting) s.history caller) :
    ∀ caller, .givenUp caller ∈ s'.history →
      Departed (s'.seat.calls ++ s'.waiting) s'.history caller := by
  intro departed hgiven
  have hpending := hs.attended
  cases hstep with
  | host acts => exact h departed hgiven
  | @call caller operation opened fresh =>
      have hdeparted := h departed (by simpa using hgiven)
      obtain ⟨task, hcalled⟩ := hdeparted.called
      have hother : caller ≠ departed := by
        rintro rfl
        exact fresh task hcalled
      have hlater : Departed _ (.called caller operation :: s.history) departed :=
        hdeparted.event (by simp) (by simp)
      refine ⟨hlater.called, ?_, hlater.unanswered, hlater.idle⟩
      intro call hmem
      rcases List.mem_cons.mp (List.perm_middle.mem_iff.mp hmem) with rfl | hmem
      · exact hother
      · exact hdeparted.absent call hmem
  | @refuse caller operation refusal waits refused =>
      have hdeparted := h departed (by simpa using hgiven)
      have hother : caller ≠ departed := hdeparted.absent _ (List.mem_append_right _ waits)
      refine (hdeparted.mono ?_).event (by simp) (by simp [hother])
      exact fun call hmem => (List.mem_append.mp hmem).elim (List.mem_append_left _)
        (fun hmem => List.mem_append_right _ (List.mem_of_mem_erase hmem))
  | @acquire caller operation task warden waits asks vacant =>
      have hdeparted := h departed
        (givenUp_of_proceed (s := s.leave caller operation) hgiven)
      have hother : caller ≠ departed := hdeparted.absent _ (List.mem_append_right _ waits)
      refine Departed.proceed (s := s.leave caller operation) (hdeparted.mono ?_) hother _
      exact fun call hmem => List.mem_append_right _ (List.mem_of_mem_erase hmem)
  | @exchange caller operation underway world taken answer answers =>
      have hdeparted := h departed (by simpa [Shared.answered] using givenUp_of_proceed hgiven)
      have hother : caller ≠ departed := by
        refine hdeparted.absent (caller, operation) (List.mem_append_left _ ?_)
        rw [taken]
        exact List.mem_singleton_self _
      refine Departed.proceed (s := s.answered caller ⟨underway.call, answer⟩ world) ?_ hother _
      exact (hdeparted.mono fun call hmem => List.mem_append_right _ hmem).event
        (by simpa using hother) (by simp)
  | @giveUpWaiting caller operation waits =>
      rcases List.mem_cons.mp hgiven with heq | hgiven
      · cases heq
        refine Departed.of_givenUp (hpending.perm (perm_waiting waits)) ?_
        rw [hs.isolated.waits _ waits]
        exact fun exchange hmem => (by cases hmem)
      · refine ((h departed hgiven).mono ?_).event (by simp) (by simp)
        exact fun call hmem => (List.mem_append.mp hmem).elim (List.mem_append_left _)
          (fun hmem => List.mem_append_right _ (List.mem_of_mem_erase hmem))
  | @giveUp caller operation underway taken suspended =>
      rcases List.mem_cons.mp hgiven with heq | hgiven
      · cases heq
        rw [Attended, taken] at hpending
        obtain ⟨aim, termination, -, -, hstops⟩ := hs.stops_of_suspends taken suspended
        exact Departed.of_givenUp hpending fun exchange hmem => (hstops exchange hmem).1
      · exact ((h departed hgiven).mono fun call hmem => List.mem_append_right _ hmem).event
          (by simp) (by simp)
  | @close warden vacant unused =>
      cases hturn : warden.drop <;> rw [hturn] at hgiven <;>
        exact (h departed hgiven).mono fun call hmem => List.mem_append_right _ hmem
  | @closing discard world closes answer answers =>
      have hdeparted :
          Departed s.waiting (.exchanged none ⟨discard.call, answer⟩ :: s.history) departed := by
        refine ((h departed ?_).mono fun call hmem => List.mem_append_right _ hmem).event
          (by simp) (by simp)
        cases hturn : discard.receive answer <;> rw [hturn] at hgiven <;>
          simpa [letGo, Shared.answered] using hgiven
      cases hturn : discard.receive answer <;> exact hdeparted

theorem Reachable.departed {s : Shared World} (h : Reachable behaviour deployment s) :
    ∀ caller, .givenUp caller ∈ s.history →
      Departed (s.seat.calls ++ s.waiting) s.history caller := by
  induction h with
  | begin => exact fun caller hgiven => (by cases hgiven)
  | step hreachable hstep ih => exact hstep.departed hreachable ih

end Shared

end ClockWarden.Supervisor
