import ClockWarden.Proofs.Supervisor.Abandonment
import Mathlib.Logic.Relation

/-! A stop that was given up is gone on with. As long as only those who ask for the status call on the
host, the process stays managed, so whoever launches or stops next takes up its stop. There is one
exception: a look at the status that finds the process ended kills its group and lets go of it
(`Reachable.hands_over`). -/

namespace ClockWarden.Supervisor

open Host

variable {World : Type}

/-- Somebody has sent a killing signal to the group of a process. -/
def GroupKilled (handle : Handle) (newer : List (Event World)) : Prop :=
  ∃ caller exchange, .exchanged (some caller) exchange ∈ newer ∧ exchange.Kills handle.group

theorem GroupKilled.cons {handle : Handle} {newer : List (Event World)} (h : GroupKilled handle newer)
    (event : Event World) : GroupKilled handle (event :: newer) := by
  obtain ⟨caller, exchange, hmem, hkills⟩ := h
  exact ⟨caller, exchange, List.mem_cons_of_mem event hmem, hkills⟩

/-- A process is managed still, or its group has been killed and nothing is managed. -/
def Warden.Keeps (s : Warden) (handle : Handle) (newer : List (Event World)) : Prop :=
  (∃ left, s.current = some left ∧ left.Same handle) ∨ s.current = none ∧ GroupKilled handle newer

/-- How far a look at the status has come with a process. -/
def Operation.Stage.Watches (handle : Handle) (newer : List (Event World)) : Operation.Stage → Prop
  | .polling left => left.Same handle
  | .discarding discard =>
    discard.handle.Same handle ∧ (discard.stage = .releasing → GroupKilled handle newer)
  | .stopping _ _ | .inheriting _ | .launching _ => False

/-- What has become of a process that only the status has been asked of. Any other operation that has the
supervisor has not begun, and would leave it as it was. -/
def Seat.Keeps (handle : Handle) (newer : List (Event World)) : Seat → Prop
  | .vacant warden => warden.Keeps handle newer
  | .taken _ operation underway =>
    operation = .tellStatus ∧ underway.stage.Watches handle newer ∨
      operation ≠ .tellStatus ∧ underway.interrupted.Keeps handle newer
  | .closing _ | .closed => True

variable {handle : Handle} {newer : List (Event World)}

theorem Warden.Keeps.cons {s : Warden} (h : s.Keeps handle newer) (event : Event World) :
    s.Keeps handle (event :: newer) :=
  h.imp_right fun hgone => ⟨hgone.1, hgone.2.cons event⟩

theorem Operation.Stage.Watches.cons {stage : Operation.Stage} (h : stage.Watches handle newer)
    (event : Event World) : stage.Watches handle (event :: newer) := by
  cases stage with
  | polling left => exact h
  | discarding discard => exact ⟨h.1, fun hstage => (h.2 hstage).cons event⟩
  | _ => exact h.elim

theorem Seat.Keeps.cons {seat : Seat} (h : seat.Keeps handle newer) (event : Event World) :
    seat.Keeps handle (event :: newer) := by
  cases seat with
  | vacant warden => exact Warden.Keeps.cons h event
  | taken caller operation underway =>
      exact h.imp (fun hwatches => ⟨hwatches.1, hwatches.2.cons event⟩)
        (fun hkeeps => ⟨hkeeps.1, hkeeps.2.cons event⟩)
  | closing discard => exact trivial
  | closed => exact trivial

namespace Operation

/-- An operation that is given up before its first exchange leaves the supervisor as it was. -/
theorem start_interrupted (s : Warden) {operation : Operation} (h : operation ≠ .tellStatus) :
    (operation.start s).Leads (fun next => next.interrupted = s) (fun result => result.1 = s) := by
  cases htask : operation.task with
  | error refusal =>
      rw [start_of_refused htask]
      rfl
  | ok task =>
      rw [start_of_task htask]
      cases task with
      | tell => exact absurd (eq_tellStatus_of_task htask) h
      | pursue aim =>
          obtain ⟨deployment, current, launches⟩ := s
          cases current with
          | some handle => rfl
          | none => cases aim <;> rfl

namespace Underway

variable {u : Underway} {left : Handle}

theorem watches_inspected (hsame : left.Same handle) (hretired : left.phase.isRetired = false)
    (runs : Bool) :
    (u.inspected (left, runs)).Leads (fun next => next.stage.Watches handle newer)
      (fun result => result.1.Keeps handle newer) := by
  cases runs with
  | true => exact Or.inl ⟨left, rfl, hsame⟩
  | false =>
      refine (Turn.leads_after _ _).mpr ((Turn.leads_within _).mpr ?_)
      refine (Discard.start_sound hretired).imp ?_ (fun _ hfalse => hfalse.elim)
      rintro discard ⟨-, rfl, hstage⟩
      exact ⟨hsame, fun hreleasing => absurd hreleasing hstage⟩

theorem watches_start {s : Warden} (hs : s.Sound) (h : s.Keeps handle newer) :
    (tellStatus.start s).Leads (fun next => next.stage.Watches handle newer)
      (fun result => result.1.Keeps handle newer) := by
  rw [start_of_task (show tellStatus.task = .ok .tell from rfl)]
  unfold Task.start
  rcases h with ⟨left, hcurrent, hsame⟩ | ⟨hcurrent, hkilled⟩
  · have hretired := hs left hcurrent
    simp only [hcurrent]
    refine (Turn.leads_within _).mpr ?_
    unfold Inspection.start
    rcases left.phase_cases hretired with hphase | ⟨status, hphase⟩ <;> rw [hphase]
    · exact hsame
    · exact watches_inspected hsame hretired false
  · simp only [hcurrent]
    exact Or.inr ⟨hcurrent, hkilled⟩

/-- A look at the status goes on with the same process, and lets go of it only after its group has been
killed. -/
theorem watches_receive (hsound : u.stage.Sound) (h : u.stage.Watches handle newer) (caller : Caller)
    (answer : u.call.Answer) :
    (u.receive answer).Leads
      (fun next => next.stage.Watches handle
        (.exchanged (some caller) ⟨u.call, answer⟩ :: newer))
      (fun result => result.1.Keeps handle (.exchanged (some caller) ⟨u.call, answer⟩ :: newer)) := by
  obtain ⟨deployment, launches, stage⟩ := u
  cases stage with
  | polling left =>
      have hretired : left.phase.isRetired = false := congrArg Phase.isRetired hsound
      refine (Turn.leads_after [] (inspected _ (left.inspected answer))).mpr ?_
      rcases answer with cause | _ | status
      · exact watches_inspected h hretired false
      · exact watches_inspected h hretired true
      · exact watches_inspected ((left.same_reap status).trans h)
          (Discard.not_retired_reap hretired status) false
  | discarding discard =>
      obtain ⟨left, stage⟩ := discard
      obtain ⟨hsame, hkilled⟩ := h
      refine (Turn.leads_within _).mpr ?_
      cases stage with
      | polling =>
          rcases answer with cause | _ | status
          · exact ⟨hsame, fun hstage => (by cases hstage)⟩
          · exact ⟨hsame, fun hstage => (by cases hstage)⟩
          · exact ⟨(left.same_reap status).trans hsame, fun hstage => (by cases hstage)⟩
      | killing =>
          have hgroup : GroupKilled handle
              (.exchanged (some caller) ⟨.signalGroup left.group .kill, answer⟩ :: newer) := by
            refine ⟨caller, _, List.mem_cons_self, answer, ?_⟩
            rw [show handle.group = left.group from hsame.1.symm]
          change (Discard.killed left).Leads _ _
          unfold Discard.killed
          cases left.phase.status? with
          | some status => exact Or.inr ⟨rfl, hgroup⟩
          | none => exact ⟨hsame, fun _ => hgroup⟩
      | releasing => exact Or.inr ⟨rfl, (hkilled rfl).cons _⟩
  | _ => exact h.elim

theorem Watches.not_suspends (h : u.stage.Watches handle newer) : u.call.suspends = false := by
  by_contra hsuspends
  obtain ⟨aim, termination, hstage⟩ := stopping_of_suspends (Bool.not_eq_false _ ▸ hsuspends)
  rw [hstage] at h
  exact h

end Underway

end Operation

namespace Shared

variable {behaviour : Behaviour World} {deployment : Deployment}

theorem keeps_proceed {s : Shared World} {caller : Caller} {operation : Operation}
    {older : List (Event World)} (hnewer : s.history = newer ++ older)
    {turn : Turn Operation.Underway Operation.Result}
    (h : turn.Leads (fun next => (Seat.taken caller operation next).Keeps handle newer)
      (fun result => result.1.Keeps handle newer)) :
    ∃ newer', (s.proceed caller operation turn).history = newer' ++ older ∧
      (s.proceed caller operation turn).seat.Keeps handle newer' := by
  cases turn with
  | goOn entries next => exact ⟨newer, hnewer, h⟩
  | finish entries result =>
      refine ⟨.returned caller operation result.2 s.world :: newer, ?_, Warden.Keeps.cons h _⟩
      exact congrArg _ hnewer

/-- One step keeps what has become of a process, unless somebody calls on the host who does not ask for the
status. -/
theorem Step.keeps {s s' : Shared World} (hstep : Step behaviour s s')
    (hsound : s.seat.Sound deployment) {older : List (Event World)} (hnewer : s.history = newer ++ older)
    (hwatched : ∀ caller operation underway exchange, s.seat = .taken caller operation underway →
      .exchanged (some caller) exchange :: s.history <:+ s'.history → operation = .tellStatus)
    (h : s.seat.Keeps handle newer) :
    ∃ newer', s'.history = newer' ++ older ∧ s'.seat.Keeps handle newer' := by
  cases hstep with
  | host acts => exact ⟨newer, hnewer, h⟩
  | call opened fresh => exact ⟨_ :: newer, congrArg _ hnewer, h.cons _⟩
  | refuse waits refused => exact ⟨_ :: newer, congrArg _ hnewer, h.cons _⟩
  | giveUpWaiting waits => exact ⟨_ :: newer, congrArg _ hnewer, h.cons _⟩
  | @acquire caller operation task warden waits asks vacant =>
      rw [vacant] at h hsound
      refine keeps_proceed (s := s.leave caller operation) hnewer ?_
      by_cases hoperation : operation = .tellStatus
      · subst hoperation
        exact (Operation.Underway.watches_start hsound.1 h).imp
          (fun _ hnext => Or.inl ⟨rfl, hnext⟩) (fun _ hresult => hresult)
      · refine (Operation.start_interrupted warden hoperation).imp ?_ ?_
        · rintro next rfl
          exact Or.inr ⟨hoperation, h⟩
        · rintro result rfl
          exact h
  | @exchange caller operation underway world taken answer answers =>
      have hasks : operation = .tellStatus := by
        refine hwatched caller operation underway ⟨underway.call, answer⟩ taken ?_
        exact history_proceed (s.answered caller ⟨underway.call, answer⟩ world) _ _ _
      rw [taken] at h hsound
      have hwatches := (h.resolve_right fun hother => hother.1 hasks).2
      have hanswered : (s.answered caller ⟨underway.call, answer⟩ world).history =
          (.exchanged (some caller) ⟨underway.call, answer⟩ :: newer) ++ older :=
        congrArg (List.cons _) hnewer
      refine keeps_proceed hanswered ?_
      exact (Operation.Underway.watches_receive hsound.1 hwatches caller answer).imp
        (fun _ hnext => Or.inl ⟨hasks, hnext⟩) (fun _ hresult => hresult)
  | @giveUp caller operation underway taken suspended =>
      rw [taken] at h
      rcases h with ⟨-, hwatches⟩ | ⟨-, hkeeps⟩
      · rw [Operation.Underway.Watches.not_suspends hwatches] at suspended
        cases suspended
      · exact ⟨_ :: newer, congrArg _ hnewer, hkeeps.cons _⟩
  | @close warden vacant unused =>
      cases warden.drop <;> exact ⟨newer, hnewer, trivial⟩
  | @closing discard world closes answer answers =>
      have hlater : (s.answered none ⟨discard.call, answer⟩ world).history =
          (.exchanged none ⟨discard.call, answer⟩ :: newer) ++ older := congrArg (List.cons _) hnewer
      cases discard.receive answer <;> exact ⟨_, hlater, trivial⟩

theorem Reachable.run {s s' : Shared World} (hs : Reachable behaviour deployment s)
    (hrun : Relation.ReflTransGen (Step behaviour) s s') : Reachable behaviour deployment s' := by
  induction hrun with
  | refl => exact hs
  | tail _ hstep ih => exact ih.step hstep

end Shared

end ClockWarden.Supervisor
