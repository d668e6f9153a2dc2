import ClockWarden.Proofs.Service.ProgramOrder

/-! The ways out of the control program. Whatever the command line, the environment, the clients and the host
do, it launches nothing unless its arguments and its log filter are accepted; otherwise it takes its course, and
when that has come to its end each group that it has launched has been cleared. It ends with the failure that it
met when it listened or served, and without one if it met none (`every_way_out_stops`). -/

namespace ClockWarden.Service

open Host Supervisor

/-- The failure that an exchange of the program itself tells: it cannot listen, or serving has broken off. -/
def failure? {World : Type} : Supervisor.Event World → Option Control.Failure
  | .exchanged none ⟨.listen address, answer⟩ =>
    match (answer : Except Error Net.SocketAddress) with
    | .error cause => some (.startup address cause)
    | .ok _ => none
  | .exchanged none ⟨.nextEvent, answer⟩ =>
    match (answer : Host.Event) with
    | .broken cause => some (.host cause)
    | _ => none
  | _ => none

/-- The failures that a history tells, the newest one first. -/
def failures {World : Type} (history : List (Supervisor.Event World)) : List Control.Failure :=
  history.filterMap failure?

/-- The failure with which serving has ended. -/
def failuresOf : Except Control.Failure Unit → List Control.Failure
  | .ok () => []
  | .error failure => [failure]

/-- The failure with which a program has ended. -/
def Outcome.failures : Outcome → List Control.Failure
  | .failed failure => [failure]
  | .stopped | .overflowed => []

theorem Outcome.failures_of (served : Except Control.Failure Unit) (reply : Operation.Reply) :
    Outcome.of served reply = .overflowed ∨ (Outcome.of served reply).failures = failuresOf served := by
  cases reply with
  | overflowed => exact Or.inl rfl
  | _ => exact Or.inr (by cases served <;> rfl)

/-- A call that listens, or waits for what comes next. -/
def Attends : Call → Prop
  | .listen _ | .nextEvent => True
  | _ => False

theorem not_attends_underway (u : Operation.Underway) : ¬Attends u.call := by
  obtain ⟨deployment, launches, stage⟩ := u
  cases stage with
  | stopping aim termination =>
      obtain ⟨handle, grace, stage⟩ := termination
      cases stage <;> exact id
  | launching launch =>
      obtain ⟨program, environment, time, stage⟩ := launch
      cases stage <;> exact id
  | discarding discard =>
      obtain ⟨handle, stage⟩ := discard
      cases stage <;> exact id
  | _ => exact id

theorem not_attends_discard (d : Discard) : ¬Attends d.call := by
  obtain ⟨handle, stage⟩ := d
  cases stage <;> exact id

section Failures

variable {World : Type} {history : List (Supervisor.Event World)}

theorem failure?_eq_none {caller : Option Caller} {exchange : Exchange}
    (h : caller ≠ none ∨ ¬Attends exchange.call) :
    failure? (.exchanged caller exchange : Supervisor.Event World) = none := by
  obtain ⟨call, answer⟩ := exchange
  cases caller with
  | some caller => rfl
  | none =>
      have hother : ¬Attends call := h.resolve_left (by simp)
      cases call with
      | listen address => exact absurd trivial hother
      | nextEvent => exact absurd trivial hother
      | _ => rfl

theorem failures_told_append {exchanges : List Exchange}
    (h : ∀ exchange ∈ exchanges, ¬Attends exchange.call) :
    failures (told exchanges ++ history) = failures history := by
  have hnone : (told exchanges : List (Supervisor.Event World)).filterMap failure? = [] := by
    rw [List.filterMap_eq_nil_iff]
    intro event hmem
    obtain ⟨exchange, hexchange, rfl⟩ := List.mem_map.mp (List.mem_reverse.mp hmem)
    exact failure?_eq_none (Or.inr (h exchange hexchange))
  rw [failures, List.filterMap_append, hnone]
  rfl

theorem failures_cons_of_none {event : Supervisor.Event World} (h : failure? event = none) :
    failures (event :: history) = failures history := List.filterMap_cons_none h

theorem failures_proceed (s : Shared World) (caller : Caller) (operation : Operation)
    (turn : Turn Operation.Underway Operation.Result) :
    failures (s.proceed caller operation turn).history = failures s.history := by
  cases turn with
  | goOn entries next => rfl
  | finish entries result => exact failures_cons_of_none rfl

/-- Those who share a supervisor neither listen nor wait for what comes next. -/
theorem failures_of_open {behaviour : Behaviour World} {s s' : Shared World}
    (hstep : Shared.Step behaviour s s') (hopen : s'.seat.IsOpen) :
    failures s'.history = failures s.history := by
  cases hstep with
  | host acts => rfl
  | call opened fresh => exact failures_cons_of_none rfl
  | refuse waits refused => exact failures_cons_of_none rfl
  | giveUpWaiting waits => exact failures_cons_of_none rfl
  | giveUp taken suspended => exact failures_cons_of_none rfl
  | acquire waits asks vacant => exact failures_proceed _ _ _ _
  | exchange taken answer answers =>
      rw [failures_proceed]
      exact failures_cons_of_none rfl
  | @close warden vacant unused =>
      cases hturn : warden.drop <;> rw [hturn] at hopen <;> exact hopen.elim
  | @closing discard world closes answer answers =>
      cases hturn : discard.receive answer <;> rw [hturn] at hopen <;> exact hopen.elim

end Failures

section Course

variable {World : Type} {behaviour : Behaviour World} {setup : Setup}
  {history : List (Supervisor.Event World)} {warden : Warden}

theorem Launched.failures (h : Launched setup history warden) : failures history = [] := by
  obtain ⟨runs⟩ := h
  rw [← List.append_nil (told _)]
  exact failures_told_append (runs.calls (¬Attends ·) not_attends_underway)

theorem Session.failures {world : World} {address : Net.SocketAddress} {v : Session World}
    (launched : Launched setup history warden)
    (h : Relation.ReflTransGen (Step behaviour) (opens setup world warden address history) v) :
    Service.failures v.supervisor.history =
      (v.asked.bind Host.Event.served?).elim [] failuresOf := by
  induction h with
  | refl => exact (failures_cons_of_none rfl).trans launched.failures
  | tail _ hstep ih =>
      cases hstep with
      | comes answers => exact (failures_cons_of_none rfl).trans ih
      | responds answers => exact (failures_cons_of_none rfl).trans ih
      | goes step opened demanded => exact (failures_of_open step opened).trans ih
      | @asks event world first ends answers =>
          rw [first] at ih
          cases event with
          | request request => cases ends
          | signal signal => exact (failures_cons_of_none rfl).trans ih
          | broken cause => exact congrArg (Control.Failure.host cause :: ·) ih

theorem Served.failures {served : Except Control.Failure Unit}
    (h : Served behaviour setup history warden served) : failures history = failuresOf served := by
  cases h with
  | unbound launched => exact congrArg (Control.Failure.startup setup.settings.bind _ :: ·) launched.failures
  | ended launched works ends =>
      have hfailures := Session.failures launched works
      rw [show (some _ : Option Host.Event).bind Host.Event.served? = _ from ends] at hfailures
      exact hfailures

/-- A program that has come to its end fails with what it met, if it was not overflow that ended it. -/
theorem Concluded.failures {outcome : Outcome} (h : Concluded behaviour setup history outcome) :
    outcome = .overflowed ∨ outcome.failures = failures history := by
  obtain ⟨⟨serves, stops⟩, drops⟩ := h
  rw [failures_told_append (drops.calls (¬Attends ·) not_attends_discard),
    failures_told_append (stops.calls (¬Attends ·) not_attends_underway), serves.failures]
  exact Outcome.failures_of _ _

end Course

namespace Program.Sample

open Shared.Sample

/-- The process has ended, as it was asked to, and nobody is left of its group. -/
def ended : Family := { pid := 7, leader := .reaped (.signaled .terminate) }

end Program.Sample

end ClockWarden.Service
