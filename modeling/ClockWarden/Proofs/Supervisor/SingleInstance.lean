import ClockWarden.Proofs.Supervisor.Custody

/-! A supervisor never has two processes. Whatever its callers do and the host answers, at most one
leader that it has started is unreaped, and it asks for another one only while it manages none and all
earlier ones have been reaped (`single_instance`). -/

namespace ClockWarden.Supervisor

open Host

/-- The handle that an operation holds. -/
def Operation.Stage.handle? : Stage → Option Handle
  | .stopping _ termination => some termination.handle
  | .polling handle => some handle
  | .discarding discard => some discard.handle
  | .inheriting _ | .launching _ => none

namespace Seat

/-- The call on the host that is made next. -/
def call? : Seat → Option Call
  | .taken _ _ underway => some underway.call
  | .closing discard => some discard.call
  | .vacant _ | .closed => none

/-- The process that is managed. -/
def current : Seat → Option Handle
  | .vacant warden => warden.current
  | .taken _ _ underway => underway.stage.current
  | .closing discard => some discard.handle
  | .closed => none

/-- The handle that is held, be its process managed or about to be let go of. -/
def handle? : Seat → Option Handle
  | .vacant warden => warden.current
  | .taken _ _ underway => underway.stage.handle?
  | .closing discard => some discard.handle
  | .closed => none

/-- A process is asked for only while there is none to look after. -/
theorem custody_of_spawn {seat : Seat} {command : Command} (h : seat.call? = some (.spawn command)) :
    seat.custody = none ∧ seat.current = none ∧ seat ≠ .closed := by
  cases seat with
  | taken caller operation underway =>
      obtain ⟨hcustody, hcurrent⟩ :=
        Operation.Underway.custody_of_spawn ⟨command, Option.some.inj h⟩
      exact ⟨hcustody, hcurrent, by simp⟩
  | closing discard => exact absurd ⟨command, Option.some.inj h⟩ discard.call_not_spawn
  | _ => cases h

end Seat

namespace Shared

variable {deployment : Deployment}

/-- At most one leader is unreaped at any time, and none is whenever another process is asked for. -/
theorem single_instance {s : Shared ProcessTable} (h : Reachable ProcessTable.host deployment s) :
    s.world.unreaped.length ≤ 1 ∧
      ∀ command, s.seat.call? = some (.spawn command) →
        s.seat.current = none ∧ ∀ f ∈ s.world.families, f.status?.isSome := by
  refine ⟨h.settled.single.length_unreaped_le, ?_⟩
  intro command hcall
  obtain ⟨hcustody, hcurrent, hopen⟩ := Seat.custody_of_spawn hcall
  have hagrees := h.settled.agrees hopen
  rw [hcustody] at hagrees
  exact ⟨hcurrent, hagrees⟩

/-! ### A run

A first process is launched and then replaced. Its leader ends when it is asked to, but leaves a member
of its group behind, which is killed at the deadline. -/

namespace Sample

def noon : Calendar.Timestamp := ⟨⟨2024, 2, 29, by decide⟩, ⟨43200, 0, by decide⟩⟩

def nextDay : FakeTime := ⟨"+1d", by decide, by decide⟩

def firstHandle : Handle where
  pid := 7
  environment := Overlay.ambient ⟨Overlay.defaultLibrary⟩ .empty
  fakeTime := none
  startedAt := noon

theorem launched_reaches :
    Reaches ProcessTable.truthfulHost .standard ⟨[{ pid := 7 }]⟩
      (.vacant ⟨.standard, some firstHandle, 1⟩) := by
  have h : Reaches ProcessTable.truthfulHost .standard {} (.vacant { deployment := .standard }) :=
    ⟨_, .begin, rfl, rfl⟩
  obtain ⟨caller, h⟩ := h.acquire .launchInitial rfl rfl
  have h := h.exchange Environment.empty ⟨rfl, trivial⟩ rfl
  have h := h.exchange (.ok 7 : Except Error Pid)
    ⟨⟨fun f hf => (by cases hf), rfl⟩, fun _ _ f hf => (by cases hf)⟩ rfl
  exact h.finish noon ⟨rfl, trivial⟩ rfl

/-- The replacement, with nothing left to be done but to start the new process. -/
def replacing : Operation.Underway where
  deployment := .standard
  launches := 1
  stage := .launching {
    deployment := .standard
    environment := Overlay.timed ⟨Overlay.defaultLibrary⟩ .empty nextDay
    fakeTime := some nextDay }

/-- What remains of the first process and its group. -/
def remains : Family where
  pid := 7
  leader := .reaped (.signaled .terminate)
  members := [⟨true⟩]

theorem replacing_reaches :
    ∃ caller, Reaches ProcessTable.truthfulHost .standard ⟨[remains]⟩
      (.taken caller (.restartWith (some "+1d")) replacing) := by
  obtain ⟨caller, h⟩ := launched_reaches.acquire (.restartWith (some "+1d")) rfl rfl
  have h := h.exchange (⟨0⟩ : Instant) ⟨rfl, trivial⟩ rfl
  have h := h.exchange (.ok () : Except Errno Unit)
    ⟨rfl, _, List.mem_cons_self, rfl, fun h => (by cases h.2 rfl)⟩ rfl
  have hforks : ProcessTable.truthfulHost.acts ⟨[{ pid := 7 }]⟩ ⟨[{ pid := 7, members := [{}] }]⟩ :=
    List.Forall₂.cons (.forks (Or.inr ⟨rfl, rfl⟩)) .nil
  have hends : ProcessTable.truthfulHost.acts ⟨[{ pid := 7, members := [{}] }]⟩
      ⟨[{ pid := 7, leader := .ended (.signaled .terminate), members := [{}] }]⟩ :=
    List.Forall₂.cons (.ends rfl) .nil
  have h := (h.acts hforks).acts hends
  have h := h.exchange (some (.ok (.signaled .terminate)) : Option (Except Error ExitStatus))
    ⟨⟨⟨_, List.mem_cons_self, rfl, rfl⟩, rfl⟩, trivial⟩ rfl
  have h := h.exchange (.ok () : Except Errno Unit)
    ⟨rfl, _, List.mem_cons_self, rfl, fun h => (by cases h.1)⟩ rfl
  have h := h.exchange (⟨Instant.limit⟩ : Instant) ⟨rfl, trivial⟩ rfl
  have h := h.exchange (.ok () : Except Errno Unit)
    ⟨rfl, _, List.mem_cons_self, rfl, fun h => (by cases h.1)⟩ rfl
  exact ⟨caller, h.exchange Environment.empty ⟨rfl, trivial⟩ rfl⟩

def secondHandle : Handle where
  pid := 8
  environment := Overlay.timed ⟨Overlay.defaultLibrary⟩ .empty nextDay
  fakeTime := some nextDay
  startedAt := noon

theorem replaced_reaches :
    Reaches ProcessTable.truthfulHost .standard ⟨[{ pid := 8 }, remains]⟩
      (.vacant ⟨.standard, some secondHandle, 2⟩) := by
  obtain ⟨caller, h⟩ := replacing_reaches
  have hfresh : ∀ f ∈ [remains], f.pid ≠ 8 := by decide
  have h := h.exchange (.ok 8 : Except Error Pid)
    ⟨⟨fun f hf hpid => absurd hpid (hfresh f hf), rfl⟩, fun _ hpid => (by cases hpid; exact hfresh)⟩ rfl
  exact h.finish noon ⟨rfl, trivial⟩ rfl

end Sample

theorem single_instance_replacing :
    ∃ s : Shared ProcessTable, Reachable ProcessTable.host .standard s ∧
      s.seat.call? = some Sample.replacing.call ∧ s.world.families.length = 1 ∧
      s.world.unreaped.length ≤ 1 ∧ s.seat.current = none ∧
      ∀ f ∈ s.world.families, f.status?.isSome := by
  obtain ⟨caller, s, hs, hworld, hseat⟩ := Sample.replacing_reaches
  have hcall : s.seat.call? = some Sample.replacing.call := by rw [hseat]; rfl
  obtain ⟨hsingle, hspawn⟩ := single_instance hs.of_truthful
  exact ⟨s, hs.of_truthful, hcall, by rw [hworld]; rfl, hsingle, hspawn _ hcall⟩

end Shared

end ClockWarden.Supervisor
