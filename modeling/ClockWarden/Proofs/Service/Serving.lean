import ClockWarden.Proofs.Supervisor.SingleInstance
import ClockWarden.Service.Rehearsed

/-! A server among its clients. A request that asks the supervisor for something is a call on it, which
its client may give up; any other request is answered by the endpoint alone, and the supervisor never
learns of it (`came_of_operation`, `came_of_answered`). The supervisor of a server is shared with whoever
else calls it, so every run of a server is one of a shared supervisor (`Reachable.supervisor`), and every
request in it has made the call that it asks for (`Reachable.called`). -/

namespace ClockWarden

open Host Supervisor

/-- The operation that a demand asks the supervisor for. -/
def Control.Demand.operation? : Control.Demand → Option Operation
  | .answered _ => none
  | .status _ => some .tellStatus
  | .restart time => some (.restartWith (some time.text))

namespace Service

/-- A request that asks the supervisor for nothing is answered at once, and the supervisor stays as it
is. -/
theorem Run.came_of_answered {request : Http.Request} {response : Http.Response}
    (h : Control.Demand.ofRequest request = .answered response) (r : Run) (warden : Warden) :
    r.came warden (.request request) = r.goOn (.responding warden (some response)) := by
  simp only [came, h]

/-- Any other request is carried out as the operation that it asks for. -/
theorem Run.came_of_operation {request : Http.Request} {operation : Operation}
    (h : (Control.Demand.ofRequest request).operation? = some operation) (r : Run) (warden : Warden) :
    ∃ entries, r.came warden (.request request) =
      (r.attend warden (Control.Demand.ofRequest request) operation).after entries := by
  simp only [came]
  cases hdemand : Control.Demand.ofRequest request with
  | answered response =>
      rw [hdemand] at h
      cases h
  | status isHead =>
      rw [hdemand] at h
      cases h
      refine ⟨[], ?_⟩
      simp only
      cases r.attend warden (.status isHead) .tellStatus <;> rfl
  | restart time =>
      rw [hdemand] at h
      cases h
      exact ⟨_, rfl⟩

/-- A server: its supervisor, and the requests that have called on it. -/
structure Server (World : Type) where
  supervisor : Shared World
  requests : List (Caller × Http.Request) := []

namespace Server

variable {World : Type}

/-- One step of a server. -/
inductive Step (behaviour : Behaviour World) : Server World → Server World → Prop
  /-- A request comes, and calls on the supervisor. -/
  | comes {v : Server World} {supervisor : Shared World} {caller : Caller} {request : Http.Request}
      {operation : Operation} (asks : (Control.Demand.ofRequest request).operation? = some operation)
      (step : Shared.Step behaviour v.supervisor supervisor)
      (called : supervisor.history = .called caller operation :: v.supervisor.history) :
      Step behaviour v ⟨supervisor, (caller, request) :: v.requests⟩
  | goes {v : Server World} {supervisor : Shared World}
      (step : Shared.Step behaviour v.supervisor supervisor) :
      Step behaviour v { v with supervisor }

/-- The servers that a run leads to. -/
inductive Reachable (behaviour : Behaviour World) (deployment : Deployment) : Server World → Prop
  | begin : Reachable behaviour deployment
      { supervisor := { world := behaviour.begins, seat := .vacant { deployment } } }
  | step {v v' : Server World} :
      Reachable behaviour deployment v → Step behaviour v v' → Reachable behaviour deployment v'

variable {behaviour : Behaviour World} {deployment : Deployment} {v v' : Server World}

theorem Step.supervisor (h : Step behaviour v v') :
    Shared.Step behaviour v.supervisor v'.supervisor := by
  cases h with
  | comes asks step called => exact step
  | goes step => exact step

theorem Reachable.supervisor (h : Reachable behaviour deployment v) :
    Shared.Reachable behaviour deployment v.supervisor := by
  induction h with
  | begin => exact .begin
  | step _ hstep ih => exact ih.step hstep.supervisor

theorem Step.of_truthful {v v' : Server ProcessTable} (h : Step ProcessTable.truthfulHost v v') :
    Step ProcessTable.host v v' := by
  have htruthful {s s' : Shared ProcessTable} (hstep : Shared.Step ProcessTable.truthfulHost s s') :
      Shared.Step ProcessTable.host s s' :=
    @Shared.Step.mono _ ProcessTable.truthfulHost ProcessTable.host (fun _ _ hacts => hacts)
      (fun _ _ _ _ hanswers => And.left hanswers) _ _ hstep
  cases h with
  | comes asks step called => exact .comes asks (htruthful step) called
  | goes step => exact .goes (htruthful step)

theorem Reachable.of_truthful {v : Server ProcessTable}
    (h : Reachable ProcessTable.truthfulHost deployment v) :
    Reachable ProcessTable.host deployment v := by
  induction h with
  | begin => exact .begin
  | step _ hstep ih => exact ih.step hstep.of_truthful

/-- Every request has made the call that it asks for. -/
theorem Reachable.called (h : Reachable behaviour deployment v) :
    ∀ call ∈ v.requests, ∃ operation,
      (Control.Demand.ofRequest call.2).operation? = some operation ∧
        .called call.1 operation ∈ v.supervisor.history := by
  induction h with
  | begin => exact fun call hmem => (by cases hmem)
  | @step v v' _ hstep ih =>
      intro call hmem
      have hgrows := hstep.supervisor.history_suffix
      cases hstep with
      | comes asks step called =>
          rcases List.mem_cons.mp hmem with rfl | hmem
          · exact ⟨_, asks, by rw [called]; exact List.mem_cons_self⟩
          · obtain ⟨operation, hasks, hcalled⟩ := ih call hmem
            exact ⟨operation, hasks, hgrows.subset hcalled⟩
      | goes step =>
          obtain ⟨operation, hasks, hcalled⟩ := ih call hmem
          exact ⟨operation, hasks, hgrows.subset hcalled⟩

/-! ### Runs step by step -/

section Steps

variable {world world' : World} {seat : Seat} {warden : Warden} {waiting : List (Caller × Operation)}
  {history : List (Supervisor.Event World)} {requests : List (Caller × Http.Request)} {caller : Caller}
  {operation : Operation} {underway next : Operation.Underway} {entries : List Log.Entry}

theorem Reachable.acts
    (h : Reachable behaviour deployment ⟨⟨world, seat, waiting, history⟩, requests⟩)
    (acts : behaviour.acts world world') :
    Reachable behaviour deployment ⟨⟨world', seat, waiting, history⟩, requests⟩ :=
  h.step (.goes (.host acts))

/-- Whoever finds the supervisor vacant may acquire it. -/
theorem Reachable.acquire {task : Operation.Task}
    (h : Reachable behaviour deployment
      ⟨⟨world, .vacant warden, [(caller, operation)], history⟩, requests⟩)
    (asks : operation.task = .ok task) (starts : operation.start warden = .goOn entries underway) :
    Reachable behaviour deployment
      ⟨⟨world, .taken caller operation underway, [], history⟩, requests⟩ := by
  have hacquired := h.step (.goes (.acquire List.mem_cons_self asks rfl))
  rw [starts, Shared.leave, List.erase_cons_head] at hacquired
  exact hacquired

/-- Someone calls who sends no request. -/
theorem Reachable.call
    (h : Reachable behaviour deployment ⟨⟨world, .vacant warden, [], history⟩, requests⟩)
    (caller : Caller) (operation : Operation) (fresh : ∀ task, .called caller task ∉ history) :
    Reachable behaviour deployment
      ⟨⟨world, .vacant warden, [(caller, operation)], .called caller operation :: history⟩, requests⟩ :=
  h.step (.goes (.call (Or.inl ⟨warden, rfl⟩) fresh))

theorem Reachable.comes
    (h : Reachable behaviour deployment ⟨⟨world, .vacant warden, [], history⟩, requests⟩)
    (caller : Caller) {request : Http.Request}
    (asks : (Control.Demand.ofRequest request).operation? = some operation)
    (fresh : ∀ task, .called caller task ∉ history) :
    Reachable behaviour deployment
      ⟨⟨world, .vacant warden, [(caller, operation)], .called caller operation :: history⟩,
        (caller, request) :: requests⟩ :=
  h.step (.comes asks (.call (Or.inl ⟨warden, rfl⟩) fresh) rfl)

theorem Reachable.exchange
    (h : Reachable behaviour deployment
      ⟨⟨world, .taken caller operation underway, waiting, history⟩, requests⟩)
    (answer : underway.call.Answer) (answers : behaviour.answers world underway.call answer world')
    (goesOn : underway.receive answer = .goOn entries next) :
    Reachable behaviour deployment
      ⟨⟨world', .taken caller operation next, waiting,
        .exchanged (some caller) ⟨underway.call, answer⟩ :: history⟩, requests⟩ := by
  have hexchanged := h.step (.goes (.exchange rfl answer answers))
  rw [goesOn] at hexchanged
  exact hexchanged

theorem Reachable.finish {reply : Operation.Reply}
    (h : Reachable behaviour deployment
      ⟨⟨world, .taken caller operation underway, waiting, history⟩, requests⟩)
    (answer : underway.call.Answer) (answers : behaviour.answers world underway.call answer world')
    (finishes : underway.receive answer = .finish entries (warden, reply)) :
    Reachable behaviour deployment
      ⟨⟨world', .vacant warden, waiting, .returned caller operation reply world' ::
        .exchanged (some caller) ⟨underway.call, answer⟩ :: history⟩, requests⟩ := by
  have hexchanged := h.step (.goes (.exchange rfl answer answers))
  rw [finishes] at hexchanged
  exact hexchanged

end Steps

namespace Sample

open Shared.Sample

/-- A request for the next day. -/
def request : Http.Request := requestOfLine "POST /set_time \x7b\"fake_time\":\"+1d\"\x7d"

theorem demand_request : Control.Demand.ofRequest request = .restart nextDay := by
  decide +kernel

/-- The server when the first process has been launched. -/
theorem launched : Reachable ProcessTable.truthfulHost .standard
    ⟨⟨⟨[{ pid := 7 }]⟩, .vacant ⟨.standard, some firstHandle, 1⟩, [],
      [.returned 0 .launchInitial (.launched (.ok ⟨none, 7⟩)) ⟨[{ pid := 7 }]⟩,
        .exchanged (some 0) ⟨.readDate, noon⟩,
        .exchanged (some 0) ⟨.spawn (Deployment.standard.command firstHandle.environment),
          (.ok 7 : Except Error Pid)⟩,
        .exchanged (some 0) ⟨.inherit, Environment.empty⟩,
        .called 0 .launchInitial]⟩, []⟩ := by
  have h : Reachable ProcessTable.truthfulHost .standard _ := .begin
  have h := (h.call 0 .launchInitial (by simp)).acquire rfl rfl
  have h := h.exchange Environment.empty ⟨rfl, trivial⟩ rfl
  have h := h.exchange (.ok 7 : Except Error Pid)
    ⟨⟨fun f hf => (by cases hf), rfl⟩, fun _ _ f hf => (by cases hf)⟩ rfl
  exact h.finish noon ⟨rfl, trivial⟩ rfl

end Sample

end Server

end Service

end ClockWarden
