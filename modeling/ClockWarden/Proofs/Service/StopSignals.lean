import ClockWarden.Proofs.Service.ProgramOrder

/-! Signals that ask the control program to stop. The program waits for them only once it serves, and goes on
doing so; a signal that comes before, or while it stops because it could not listen, ends it on the spot. Once it
waits for signals it ends on its own terms, with every group that it has launched cleared. But whatever it has
launched before that is left as it is when it is killed, and nobody has sent it a killing signal
(`stop_signals`). -/

namespace ClockWarden.Service

open Host Supervisor

namespace Main

/-- It has not yet tried to listen. -/
def IsEarly : Main → Prop
  | .busy ⟨_, .launching _⟩ | .busy ⟨_, .binding _⟩ => True
  | _ => False

theorem IsEarly.isRunning {main : Main} (h : main.IsEarly) : main.IsRunning := by
  cases main with
  | busy run => exact trivial
  | _ => exact h.elim

end Main

/-- Exchanges about no process clear no group. -/
theorem uncleared_told {World : Type} {exchanges : List Exchange}
    (h : ∀ exchange ∈ exchanges, exchange.call.subject? = none) (pid : Pid) :
    ¬Cleared pid (told exchanges : List (Supervisor.Event World)) := by
  intro hcleared
  obtain ⟨caller, exchange, hmem, hclears⟩ := hcleared.exists_clears
  obtain ⟨other, hother, heq⟩ := List.mem_map.mp (List.mem_reverse.mp hmem)
  cases heq
  have hnone := h _ hother
  rw [hclears.subject?] at hnone
  cases hnone

/-- Serving has begun, or has ended otherwise than because the program could not listen. -/
def Stage.HasListened : Stage → Prop
  | .launching _ | .binding _ => False
  | .serving _ | .attending .. | .responding .. => True
  | .stopping _ served => ∀ address cause, served ≠ .error (.startup address cause)
  | .closing _ outcome => ∀ address cause, outcome ≠ .failed (.startup address cause)

def Main.HasListened : Main → Prop
  | .busy run => run.stage.HasListened
  | .serving .. => True
  | .finished outcome => ∀ address cause, outcome ≠ .failed (.startup address cause)
  | .shown _ | .brokenOff _ | .killed .. => False

theorem Main.IsEarly.not_hasListened {main : Main} (h : main.IsEarly) : ¬main.HasListened := by
  cases main with
  | busy run =>
      obtain ⟨setup, stage⟩ := run
      cases stage with
      | launching underway => exact id
      | binding warden => exact id
      | _ => exact h.elim
  | _ => exact h.elim

namespace Run

/-- What a turn leads to has listened. -/
def Listens (turn : Turn Run Outcome) : Prop := (Main.of turn).HasListened

theorem listens_drop {setup : Setup} {outcome : Outcome}
    (h : ∀ address cause, outcome ≠ .failed (.startup address cause)) (turn : Turn Discard Unit) :
    Listens (turn.within (fun d => ⟨setup, .closing d outcome⟩) (fun _ => .finish [] outcome)) := by
  cases turn <;> exact h

theorem listens_ended {served : Except Control.Failure Unit}
    (h : ∀ address cause, served ≠ .error (.startup address cause)) (r : Run)
    (result : Operation.Result) : Listens (r.ended served result) := by
  obtain ⟨warden, reply⟩ := result
  obtain ⟨entries, hended⟩ := r.ended_eq served warden reply
  rw [Listens, hended, Main.of_after]
  refine listens_drop ?_ warden.drop
  intro address cause houtcome
  cases reply with
  | overflowed => cases houtcome
  | _ =>
      cases served with
      | ok => cases houtcome
      | error failure =>
          cases houtcome
          exact h address cause rfl

theorem listens_stopping {setup : Setup} {served : Except Control.Failure Unit}
    (h : ∀ address cause, served ≠ .error (.startup address cause)) (r : Run)
    (turn : Turn Operation.Underway Operation.Result) :
    Listens (turn.within (fun u => ⟨setup, .stopping u served⟩) (r.ended served)) := by
  cases turn with
  | goOn entries underway => exact h
  | finish entries result =>
      change Listens ((r.ended served result).after entries)
      rw [Listens, Main.of_after]
      exact listens_ended h r result

theorem listens_attending {setup : Setup} (demand : Control.Demand) (stage : Stage)
    (turn : Turn Operation.Underway Operation.Result) :
    Listens (turn.within (fun u => ⟨setup, .attending demand u⟩) (attended ⟨setup, stage⟩ demand)) := by
  cases turn <;> exact trivial

theorem listens_came (r : Run) (warden : Warden) (event : Host.Event) :
    Listens (r.came warden event) := by
  cases event with
  | signal signal =>
      rw [Listens, came, Main.of_after]
      exact listens_stopping (by simp) r _
  | broken cause => exact listens_stopping (by simp) r _
  | request request =>
      cases hdemand : Control.Demand.ofRequest request with
      | answered response =>
          rw [came_of_answered hdemand]
          exact trivial
      | _ =>
          obtain ⟨entries, hcame⟩ := came_of_operation (by rw [hdemand]; rfl) r warden
          rw [Listens, hcame, Main.of_after]
          exact listens_attending _ r.stage _

theorem listens_receive {r : Run} (h : r.stage.HasListened) (answer : r.call.Answer) :
    Listens (r.receive answer) := by
  obtain ⟨setup, stage⟩ := r
  cases stage with
  | launching underway => exact h.elim
  | binding warden => exact h.elim
  | serving warden => exact listens_came _ warden answer
  | attending demand underway => exact listens_attending demand _ _
  | responding warden response => exact trivial
  | stopping underway served => exact listens_stopping h _ _
  | closing discard outcome => exact listens_drop h _

end Run

namespace Program

variable {World : Type} {behaviour : Behaviour World} {arguments : List Bytes}
  {environment : Environment} {p p' : Program World}

/-- Whoever waits for signals goes on doing so, and is not killed. -/
theorem Step.listened (hstep : Step behaviour p p') (hheeds : p.heeds = true)
    (h : p.main.HasListened) : p'.heeds = true ∧ p'.main.HasListened := by
  cases hstep with
  | acts acts => exact ⟨hheeds, h⟩
  | heeds serving => exact ⟨rfl, h⟩
  | serves serving step heeded => exact ⟨hheeds, trivial⟩
  | leaves serving => exact ⟨hheeds, Run.listens_came _ _ _⟩
  | works busy answer answers =>
      rw [busy] at h
      exact ⟨hheeds, Run.listens_receive h answer⟩
  | dies running unheeded stops =>
      rw [hheeds] at unheeded
      cases unheeded

theorem Reachable.listened (h : Reachable behaviour arguments environment p) (hheeds : p.heeds = true) :
    p.main.HasListened := by
  induction h with
  | begin => cases hheeds
  | @step p p' _ hstep ih =>
      cases hbefore : p.heeds with
      | true => exact (hstep.listened hbefore (ih hbefore)).2
      | false =>
          -- Nobody waited for signals; so somebody has just begun to, and the program serves.
          cases hstep with
          | heeds serving =>
              rw [serving]
              exact trivial
          | _ => exact absurd (hbefore.symm.trans hheeds) (by simp)

theorem Leads.listened (h : Leads behaviour p p') (hheeds : p.heeds = true)
    (hlistened : p.main.HasListened) : p'.heeds = true ∧ p'.main.HasListened := by
  induction h with
  | refl => exact ⟨hheeds, hlistened⟩
  | tail _ hstep ih => exact hstep.listened ih.1 ih.2

/-- A program that was killed does nothing more. -/
theorem Leads.killed {signal : Signal} {doing : Main} (h : Leads behaviour p p')
    (hkilled : p.main = .killed signal doing) : p'.main = p.main ∧ p'.history = p.history := by
  induction h with
  | refl => exact ⟨rfl, rfl⟩
  | @tail p' p'' _ hstep ih =>
      obtain ⟨hmain, hhistory⟩ := ih
      have hdead : p'.main = .killed signal doing := hmain.trans hkilled
      cases hstep with
      | acts acts => exact ⟨hmain, hhistory⟩
      | heeds serving => exact ⟨hmain, hhistory⟩
      | dies running unheeded stops =>
          rw [hdead] at running
          exact running.elim
      | works busy answer answers => cases hdead.symm.trans busy
      | serves serving step heeded => cases hdead.symm.trans serving
      | leaves serving => cases hdead.symm.trans serving

/-- Before the program has tried to listen it has cleared no group. -/
theorem Reachable.uncleared (h : Reachable behaviour arguments environment p) (hearly : p.main.IsEarly)
    (pid : Pid) : ¬Cleared pid p.history := by
  obtain ⟨setup, -, hstands⟩ := h.opened hearly.isRunning
  obtain ⟨world, main, heeds, history⟩ := p
  cases hstands with
  | launching path => exact uncleared_told (first_of_path path).2 pid
  | binding launched =>
      obtain ⟨runs⟩ := launched
      obtain ⟨entries, path⟩ := runs.path
      exact uncleared_told (first_of_path path).2 pid
  | _ => exact hearly.elim

end Program

/-- Signals to stop. A program that waits for them has at least begun to serve, is never killed by one, and has
cleared every group that it has launched when it is over. Any other that runs is killed by each, and does nothing
more: the group that it owed then is left as it is. That is so from the beginning until it serves, and till then
it has cleared nothing, be it launched or not. -/
theorem stop_signals {World : Type} {behaviour : Behaviour World} {arguments : List Bytes}
    {environment : Environment} {p : Program World}
    (h : Program.Reachable behaviour arguments environment p) :
    (p.heeds = true → ∀ p', Program.Leads behaviour p p' →
      p'.main.HasListened ∧ ∀ outcome, p'.main = .finished outcome → AllCleared p'.history) ∧
    (p.heeds = false → p.main.IsRunning → ∀ signal : Signal, signal.AsksToStop →
      Program.Step behaviour p { p with main := .killed signal p.main } ∧
        ∀ p', Program.Leads behaviour { p with main := .killed signal p.main } p' →
          p'.main = .killed signal p.main ∧ p'.history = p.history ∧ Kept p'.history p.main.owed) ∧
    (p.main.IsEarly → p.heeds = false ∧ ∀ pid, ¬Cleared pid p.history) := by
  refine ⟨?_, ?_, ?_⟩
  · intro hheeds p' hleads
    refine ⟨(hleads.listened hheeds (h.listened hheeds)).2, fun outcome hfinished => ?_⟩
    have hkept := (h.leads hleads).kept.2
    rw [hfinished] at hkept
    exact hkept.allCleared
  · intro hheeds hruns signal hstops
    refine ⟨.dies hruns hheeds hstops, fun p' hleads => ?_⟩
    obtain ⟨hmain, hhistory⟩ := hleads.killed rfl
    refine ⟨hmain, hhistory, ?_⟩
    rw [hhistory]
    exact h.kept.2
  · intro hearly
    refine ⟨?_, h.uncleared hearly⟩
    rw [← Bool.not_eq_true]
    exact fun hheeds => hearly.not_hasListened (h.listened hheeds)

/-! ### Two moments

A process has been launched when a signal to stop comes, in one run before the program listens, and in the other
while it stops because it cannot listen. -/

namespace Program.Sample

/-- A program that is killed while its run stands so, and the process that it has launched lives on. -/
def LeavesBehind (run : Run) : Prop :=
  ∃ p p' : Program ProcessTable, Reachable ProcessTable.truthfulHost [] .empty p ∧ p.main = .busy run ∧
    Step ProcessTable.truthfulHost p p' ∧ (∃ signal, p'.main = .killed signal (.busy run)) ∧
    startedIn p'.history = [7] ∧ ¬Cleared 7 p'.history ∧ ∃ f ∈ p'.world.families, f.pid = 7 ∧ f.Spares

def binding : Run := ⟨setup, .binding launched⟩

def unavailable : Error := .code 99

/-- The program could not listen, and it has asked the process to end. -/
def stopping : Run where
  setup
  stage := .stopping
    { deployment := setup.settings.deployment
      launches := 1
      stage := .stopping .stop
        { handle := Shared.Sample.firstHandle, grace := setup.settings.deployment.stopTimeout,
          stage := .awaiting ⟨setup.settings.deployment.stopTimeout.nanos⟩ } }
    (.error (.startup setup.settings.bind unavailable))

/-- What has been done by then. -/
def halfway : List (Supervisor.Event ProcessTable) :=
  .exchanged none ⟨.signalGroup 7 .terminate, (.ok () : Except Errno Unit)⟩ ::
    .exchanged none ⟨.readClock, (⟨0⟩ : Instant)⟩ ::
    .exchanged none
      ⟨.listen setup.settings.bind, (.error unavailable : Except Error Net.SocketAddress)⟩ :: launch

theorem stopping_reachable :
    Reachable ProcessTable.truthfulHost [] .empty ⟨table, .busy stopping, false, halfway⟩ := by
  have h := launched_reachable.works (.error unavailable : Except Error Net.SocketAddress)
    ⟨rfl, trivial⟩ rfl
  have h := h.works (⟨0⟩ : Instant) ⟨rfl, trivial⟩ rfl
  exact h.works (.ok () : Except Errno Unit)
    ⟨rfl, _, List.mem_cons_self, rfl, fun h => (by cases h.2 rfl)⟩ rfl

theorem uncleared_halfway : ¬Cleared 7 halfway := by
  intro hcleared
  obtain ⟨caller, exchange, hmem, hclears⟩ := hcleared.exists_clears
  unfold halfway launch at hmem
  rcases hclears with ⟨answer, rfl⟩ | ⟨errno, rfl⟩
  all_goals repeat obtain _ | ⟨_, hmem⟩ := hmem

end Program.Sample

theorem stop_signals_launched :
    Program.Sample.LeavesBehind Program.Sample.binding ∧
      Program.Sample.LeavesBehind Program.Sample.stopping := by
  have hbinding := Program.Sample.launched_reachable
  have hstopping := Program.Sample.stopping_reachable
  obtain ⟨-, hkills, hearly⟩ := stop_signals hbinding
  obtain ⟨hstep, -⟩ := hkills rfl trivial .terminate (Or.inr rfl)
  obtain ⟨-, hkills', -⟩ := stop_signals hstopping
  obtain ⟨hstep', -⟩ := hkills' rfl trivial .interrupt (Or.inl rfl)
  have hspares : ∃ f ∈ Program.Sample.table.families, f.pid = 7 ∧ f.Spares :=
    ⟨_, List.mem_cons_self, rfl, Or.inr ⟨rfl, rfl⟩⟩
  exact ⟨⟨_, _, hbinding, rfl, hstep, ⟨_, rfl⟩, rfl, (hearly trivial).2 7, hspares⟩,
    ⟨_, _, hstopping, rfl, hstep', ⟨_, rfl⟩, rfl, Program.Sample.uncleared_halfway, hspares⟩⟩

end ClockWarden.Service
