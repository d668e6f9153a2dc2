import ClockWarden.Proofs.Service.Serving
import ClockWarden.Proofs.Supervisor.Clearing
import Mathlib.Logic.Relation

/-! The control program as a whole, on any host. Before it serves and after, it does what its run does; in
between many requests share the supervisor, until an event asks the program to stop and all of them have been
answered. Whether a signal is such an event depends on whether somebody waits for signals; where nobody does,
a signal to stop ends the program on the spot. At every moment each group that was launched has been cleared,
but for the one that is owed, be it in a run (`Run.allCleared`) or in a program (`Program.Reachable.kept`). -/

namespace ClockWarden

open Host Supervisor

/-- The signals that ask a program to stop. -/
def Host.Signal.AsksToStop (signal : Signal) : Prop := signal = .interrupt ∨ signal = .terminate

/-- What serving comes to when an event ends it. -/
def Host.Event.served? : Host.Event → Option (Except Control.Failure Unit)
  | .request _ => none
  | .signal _ => some (.ok ())
  | .broken cause => some (.error (.host cause))

/-- Somebody may acquire the supervisor, or has it. -/
def Supervisor.Seat.IsOpen : Seat → Prop
  | .vacant _ | .taken .. => True
  | .closing _ | .closed => False

namespace Supervisor.Shared

variable {World : Type}

theorem called_of_proceed {s : Shared World} {caller other : Caller} {operation task : Operation}
    {turn : Turn Operation.Underway Operation.Result}
    (h : .called other task ∈ (s.proceed caller operation turn).history) :
    .called other task ∈ s.history := by
  cases turn with
  | goOn entries next => exact h
  | finish entries result => exact (List.mem_cons.mp h).resolve_left (fun heq => (by cases heq))

/-- A call that is told is told since it was made. -/
theorem Step.called_or {behaviour : Behaviour World} {s s' : Shared World}
    (hstep : Step behaviour s s') {caller : Caller} {operation : Operation}
    (hcalled : .called caller operation ∈ s'.history) :
    .called caller operation ∈ s.history ∨ s'.history = .called caller operation :: s.history := by
  have hother {event : Event World} {history : List (Event World)}
      (hmem : .called caller operation ∈ event :: history) (hevent : .called caller operation ≠ event) :
      .called caller operation ∈ history := (List.mem_cons.mp hmem).resolve_left hevent
  cases hstep with
  | host acts => exact Or.inl hcalled
  | call opened fresh =>
      rcases List.mem_cons.mp hcalled with heq | hmem
      · cases heq
        exact Or.inr rfl
      · exact Or.inl hmem
  | refuse waits refused => exact Or.inl (hother hcalled (by simp))
  | giveUpWaiting waits => exact Or.inl (hother hcalled (by simp))
  | giveUp taken suspended => exact Or.inl (hother hcalled (by simp))
  | acquire waits asks vacant => exact Or.inl (called_of_proceed (s := leave _ _ _) hcalled)
  | exchange taken answer answers => exact Or.inl (hother (called_of_proceed hcalled) (by simp))
  | @close warden vacant unused =>
      cases hturn : warden.drop <;> rw [hturn] at hcalled <;> exact Or.inl hcalled
  | @closing discard world closes answer answers =>
      cases hturn : discard.receive answer <;> rw [hturn] at hcalled <;>
        exact Or.inl (hother hcalled (by simp))

end Supervisor.Shared

namespace Service

/-- A server at work: the supervisor that its requests share, and what has asked it to stop. -/
structure Session (World : Type) where
  supervisor : Shared World
  asked : Option Host.Event := none

/-- One step of a server at work. Whoever calls on its supervisor does what a request has asked for, and
nobody lets go of it. -/
inductive Session.Step {World : Type} (behaviour : Behaviour World) :
    Session World → Session World → Prop
  | comes {v : Session World} {request : Http.Request} {world : World}
      (answers : behaviour.answers v.supervisor.world .nextEvent (.request request : Host.Event) world) :
      Step behaviour v
        { v with
          supervisor := v.supervisor.answered none ⟨.nextEvent, (.request request : Host.Event)⟩ world }
  | goes {v : Session World} {supervisor : Shared World}
      (step : Shared.Step behaviour v.supervisor supervisor) (opened : supervisor.seat.IsOpen)
      (demanded : ∀ caller operation,
        supervisor.history = .called caller operation :: v.supervisor.history →
          ∃ request, (Control.Demand.ofRequest request).operation? = some operation ∧
            .exchanged none ⟨.nextEvent, (.request request : Host.Event)⟩ ∈ v.supervisor.history) :
      Step behaviour v { v with supervisor }
  | responds {v : Session World} {response : Option Http.Response} {world : World}
      (answers : behaviour.answers v.supervisor.world (.respond response) () world) :
      Step behaviour v
        { v with supervisor := v.supervisor.answered none ⟨.respond response, ()⟩ world }
  /-- An event comes that ends serving; no other one does. -/
  | asks {v : Session World} {event : Host.Event} {world : World} (first : v.asked = none)
      (ends : event.served?.isSome) (answers : behaviour.answers v.supervisor.world .nextEvent event world) :
      Step behaviour v ⟨v.supervisor.answered none ⟨.nextEvent, event⟩ world, some event⟩

/-- What a program is about. -/
inductive Main where
  /-- It has shown a text, and nothing else. -/
  | shown (stop : CommandLine.Stop)
  /-- It does what its run does. -/
  | busy (run : Run)
  /-- It serves, until it has been asked to stop and nobody needs the supervisor any more. -/
  | serving (setup : Setup) (seat : Seat) (waiting : List (Caller × Operation))
      (asked : Option Host.Event)
  | finished (outcome : Outcome)
  /-- It has broken off as it read its log filter. -/
  | brokenOff (tear : Tear)
  /-- A signal has ended it on the spot. -/
  | killed (signal : Signal) (doing : Main)

namespace Main

/-- What a program is about after a turn of its run. -/
def of : Turn Run Outcome → Main
  | .goOn _ ⟨setup, .serving warden⟩ => .serving setup (.vacant warden) [] none
  | .goOn _ run => .busy run
  | .finish _ outcome => .finished outcome

@[simp] theorem of_after (entries : List Log.Entry) (turn : Turn Run Outcome) :
    of (turn.after entries) = of turn := by
  rcases turn with ⟨later, setup, stage⟩ | ⟨later, outcome⟩
  · cases stage <;> rfl
  · rfl

/-- What a program is about at the beginning. -/
def begin : Opening → Main
  | .stopped stop => .shown stop
  | .rejected failure => .finished (.failed failure)
  | .brokenOff tear => .brokenOff tear
  | .opened setup => .of (Run.start setup)

def IsRunning : Main → Prop
  | .busy _ | .serving .. => True
  | .shown _ | .finished _ | .brokenOff _ | .killed .. => False

end Main

/-- A program on its host. The history has the newest event first. -/
structure Program (World : Type) where
  world : World
  main : Main
  /-- Whether somebody waits for signals to stop. -/
  heeds : Bool := false
  history : List (Supervisor.Event World) := []

namespace Program

variable {World : Type}

/-- The program after a step of its server. -/
def serve (p : Program World) (setup : Setup) (v : Session World) : Program World :=
  { p with
    world := v.supervisor.world
    main := .serving setup v.supervisor.seat v.supervisor.waiting v.asked
    history := v.supervisor.history }

/-- One step of a program. -/
inductive Step (behaviour : Behaviour World) : Program World → Program World → Prop
  | acts {p : Program World} {world : World} (acts : behaviour.acts p.world world) :
      Step behaviour p { p with world }
  | works {p : Program World} {run : Run} {world : World} (busy : p.main = .busy run)
      (answer : run.call.Answer) (answers : behaviour.answers p.world run.call answer world) :
      Step behaviour p
        { p with
          world
          main := .of (run.receive answer)
          history := .exchanged none ⟨run.call, answer⟩ :: p.history }
  /-- A signal can ask a server to stop only when somebody waits for it. -/
  | serves {p : Program World} {setup : Setup} {seat : Seat} {waiting : List (Caller × Operation)}
      {asked : Option Host.Event} {v : Session World} (serving : p.main = .serving setup seat waiting asked)
      (step : Session.Step behaviour ⟨⟨p.world, seat, waiting, p.history⟩, asked⟩ v)
      (heeded : ∀ signal, v.asked = some (.signal signal) → p.heeds = true ∧ signal.AsksToStop) :
      Step behaviour p (p.serve setup v)
  /-- Signals to stop are waited for from now on. -/
  | heeds {p : Program World} {setup : Setup} {seat : Seat} {waiting : List (Caller × Operation)}
      {asked : Option Host.Event} (serving : p.main = .serving setup seat waiting asked) :
      Step behaviour p { p with heeds := true }
  /-- The server has been asked to stop, and all requests have been answered. -/
  | leaves {p : Program World} {setup : Setup} {warden : Warden} {event : Host.Event}
      (serving : p.main = .serving setup (.vacant warden) [] (some event)) :
      Step behaviour p { p with main := .of (Run.came ⟨setup, .serving warden⟩ warden event) }
  /-- A signal to stop ends a program in which nobody waits for it. -/
  | dies {p : Program World} {signal : Signal} (running : p.main.IsRunning) (unheeded : p.heeds = false)
      (stops : signal.AsksToStop) : Step behaviour p { p with main := .killed signal p.main }

/-- The programs that a run leads to, from arguments and an environment. -/
inductive Reachable (behaviour : Behaviour World) (arguments : List Bytes) (environment : Environment) :
    Program World → Prop
  | begin : Reachable behaviour arguments environment
      { world := behaviour.begins, main := .begin (Opening.of arguments environment) }
  | step {p p' : Program World} :
      Reachable behaviour arguments environment p → Step behaviour p p' →
        Reachable behaviour arguments environment p'

/-- What follows on a program. -/
abbrev Leads (behaviour : Behaviour World) (p p' : Program World) : Prop :=
  Relation.ReflTransGen (Step behaviour) p p'

theorem Reachable.leads {behaviour : Behaviour World} {arguments : List Bytes}
    {environment : Environment} {p p' : Program World}
    (h : Reachable behaviour arguments environment p) (hleads : Leads behaviour p p') :
    Reachable behaviour arguments environment p' := by
  induction hleads with
  | refl => exact h
  | tail _ hstep ih => exact ih.step hstep

end Program

/-- What a program itself has asked of its host, the newest exchange first. -/
def told {World : Type} (exchanges : List Exchange) : List (Supervisor.Event World) :=
  (exchanges.map (Event.exchanged none)).reverse

theorem told_append {World : Type} (before after : List Exchange) :
    (told (before ++ after) : List (Supervisor.Event World)) = told after ++ told before := by
  simp only [told, List.map_append, List.reverse_append]

theorem told_concat {World : Type} (before : List Exchange) (exchange : Exchange) :
    (told (before ++ [exchange]) : List (Supervisor.Event World)) =
      .exchanged none exchange :: told before := told_append before [exchange]

/-! ### The accounts of a run -/

/-- The handle says at each stage what the stage needs. -/
def Stage.Sound : Stage → Prop
  | .launching underway | .attending _ underway | .stopping underway _ => underway.stage.Sound
  | .binding warden | .serving warden | .responding warden _ => warden.Sound
  | .closing discard _ => discard.Sound

/-- The child whose group is owed at a stage. -/
def Stage.owed : Stage → Option Custody
  | .launching underway | .attending _ underway | .stopping underway _ => underway.stage.owed
  | .binding warden | .serving warden | .responding warden _ => warden.current.map Handle.custody
  | .closing discard _ => discard.held

namespace Run

variable {World : Type} {history : List (Supervisor.Event World)}

/-- A turn of a run keeps the accounts, and leaves nothing owed at the end. -/
def Keeps (history : List (Supervisor.Event World)) (turn : Turn Run Outcome) : Prop :=
  turn.Leads (fun next => next.stage.Sound ∧ Kept history next.stage.owed) (fun _ => Kept history none)

/-- A supervisor is sound, and keeps the accounts. -/
def Holds (history : List (Supervisor.Event World)) (warden : Warden) : Prop :=
  warden.Sound ∧ Kept history (warden.current.map Handle.custody)

theorem keeps_close (r : Run) {warden : Warden} (h : Holds history warden) (outcome : Outcome) :
    Keeps history (r.close warden outcome) :=
  (Turn.leads_within _).mpr ((Warden.kept_drop h.1 h.2).imp (fun _ hnext => hnext) (fun _ hlast => hlast))

theorem keeps_ended (r : Run) (served : Except Control.Failure Unit) {warden : Warden}
    (h : Holds history warden) (reply : Operation.Reply) :
    Keeps history (r.ended served (warden, reply)) := by
  have hclose (outcome : Outcome) := r.keeps_close h outcome
  cases reply with
  | overflowed => exact hclose .overflowed
  | _ => cases served <;> exact (Turn.leads_after _ _).mpr (hclose _)

theorem keeps_stop (r : Run) {warden : Warden} (h : Holds history warden)
    (served : Except Control.Failure Unit) : Keeps history (r.stop warden served) :=
  (Turn.leads_within _).mpr ((Operation.kept_start h.1 h.2 _).imp (fun _ hnext => hnext)
    (fun result hresult => r.keeps_ended served hresult result.2))

theorem keeps_launched (r : Run) {warden : Warden} (h : Holds history warden) (reply : Operation.Reply) :
    Keeps history (r.launched (warden, reply)) := (Turn.leads_after _ (r.goOn (.binding warden))).mpr h

theorem keeps_bound (r : Run) {warden : Warden} (h : Holds history warden)
    (found : Except Error Net.SocketAddress) : Keeps history (r.bound warden found) := by
  cases found with
  | ok address => exact (Turn.leads_after _ (r.goOn (.serving warden))).mpr h
  | error cause => exact r.keeps_stop h _

theorem keeps_attend (r : Run) {warden : Warden} (h : Holds history warden) (demand : Control.Demand)
    (operation : Operation) : Keeps history (r.attend warden demand operation) :=
  (Turn.leads_within _).mpr ((Operation.kept_start h.1 h.2 _).imp (fun _ hnext => hnext)
    (fun _ hresult => hresult))

theorem keeps_came (r : Run) {warden : Warden} (h : Holds history warden) (event : Host.Event) :
    Keeps history (r.came warden event) := by
  cases event with
  | signal signal => exact (Turn.leads_after _ _).mpr (r.keeps_stop h _)
  | broken cause => exact r.keeps_stop h _
  | request request =>
      cases hdemand : Control.Demand.ofRequest request with
      | answered response =>
          rw [came_of_answered hdemand]
          exact h
      | _ =>
          obtain ⟨entries, hcame⟩ := came_of_operation (by rw [hdemand]; rfl) r warden
          rw [hcame]
          exact (Turn.leads_after _ _).mpr (r.keeps_attend h _ _)

theorem keeps_start (setup : Setup) : Keeps ([] : List (Supervisor.Event World)) (start setup) :=
  ⟨trivial, Kept.nil⟩

/-- A run that keeps the accounts keeps them at every answer. -/
theorem keeps_receive {r : Run} (hsound : r.stage.Sound) (h : Kept history r.stage.owed)
    (answer : r.call.Answer) : Keeps (.exchanged none ⟨r.call, answer⟩ :: history) (r.receive answer) := by
  obtain ⟨setup, stage⟩ := r
  cases stage with
  | launching underway =>
      exact (Turn.leads_within _).mpr ((underway.kept_receive hsound h answer none).imp
        (fun _ hnext => hnext) (fun result hresult => keeps_launched _ hresult result.2))
  | binding warden => exact keeps_bound _ ⟨hsound, h.idle rfl rfl none⟩ answer
  | serving warden =>
      exact keeps_came _ ⟨hsound, h.idle rfl rfl none⟩ answer
  | attending demand underway =>
      exact (Turn.leads_within _).mpr ((underway.kept_receive hsound h answer none).imp
        (fun _ hnext => hnext) (fun _ hresult => hresult))
  | responding warden response => exact ⟨hsound, h.idle rfl rfl none⟩
  | stopping underway served =>
      exact (Turn.leads_within _).mpr ((underway.kept_receive hsound h answer none).imp
        (fun _ hnext => hnext) (fun result hresult => keeps_ended _ served hresult result.2))
  | closing discard outcome =>
      exact (Turn.leads_within _).mpr ((discard.kept_receive hsound h answer none).imp
        (fun _ hnext => hnext) (fun _ hlast => hlast))

theorem keeps_path {setup : Setup} {exchanges : List Exchange} {turn : Turn Run Outcome}
    (h : machine.Path (start setup) exchanges turn) :
    Keeps (told exchanges : List (Supervisor.Event World)) turn := by
  induction h with
  | here => exact keeps_start setup
  | step _ answer ih =>
      rw [told_concat]
      exact keeps_receive ih.1 ih.2 answer

/-- When a run has come to its end, whatever it was answered, each group that it has launched has been cleared
since. -/
theorem allCleared {setup : Setup} {exchanges : List Exchange} {outcome : Outcome}
    (h : machine.Runs (start setup) exchanges outcome) :
    AllCleared (told exchanges : List (Supervisor.Event World)) := by
  obtain ⟨entries, hpath⟩ := h.path
  exact Kept.allCleared (keeps_path hpath)

end Run

/-! ### The accounts of a program -/

namespace Main

def Sound : Main → Prop
  | .busy run => run.stage.Sound
  | .serving _ seat _ _ => ∃ deployment, seat.Sound deployment
  | .shown _ | .finished _ | .brokenOff _ | .killed .. => True

/-- The child whose group a program owes, or has left behind. -/
def owed : Main → Option Custody
  | .busy run => run.stage.owed
  | .serving _ seat _ _ => seat.owed
  | .shown _ | .finished _ | .brokenOff _ => none
  | .killed _ doing => doing.owed

theorem keeps_of {World : Type} {history : List (Supervisor.Event World)} {turn : Turn Run Outcome}
    (h : Run.Keeps history turn) : (of turn).Sound ∧ Kept history (of turn).owed := by
  cases turn with
  | finish entries outcome => exact ⟨trivial, h⟩
  | goOn entries run =>
      obtain ⟨setup, stage⟩ := run
      cases stage with
      | serving warden => exact ⟨⟨warden.deployment, h.1, rfl⟩, h.2⟩
      | _ => exact h

end Main

namespace Program

variable {World : Type} {behaviour : Behaviour World} {arguments : List Bytes}
  {environment : Environment} {p p' : Program World}

theorem Step.kept (hstep : Step behaviour p p') (hsound : p.main.Sound)
    (h : Kept p.history p.main.owed) : p'.main.Sound ∧ Kept p'.history p'.main.owed := by
  cases hstep with
  | acts acts => exact ⟨hsound, h⟩
  | heeds serving => exact ⟨hsound, h⟩
  | dies running unheeded stops => exact ⟨trivial, h⟩
  | works busy answer answers =>
      rw [busy] at hsound h
      exact Main.keeps_of (Run.keeps_receive hsound h answer)
  | leaves serving =>
      rw [serving] at hsound h
      obtain ⟨deployment, hwarden⟩ := hsound
      exact Main.keeps_of (Run.keeps_came _ ⟨hwarden.1, h⟩ _)
  | serves serving step heeded =>
      rw [serving] at hsound h
      obtain ⟨deployment, hseat⟩ := hsound
      cases step with
      | goes step opened demanded => exact ⟨⟨deployment, step.sound hseat⟩, step.kept hseat h⟩
      | _ => exact ⟨⟨deployment, hseat⟩, h.idle rfl rfl none⟩

theorem kept_begin (opening : Opening) :
    (Main.begin opening).Sound ∧ Kept ([] : List (Supervisor.Event World)) (Main.begin opening).owed := by
  cases opening with
  | opened setup => exact Main.keeps_of (Run.keeps_start setup)
  | _ => exact ⟨trivial, Kept.nil⟩

/-- At every moment each group that was launched has been cleared since, but for the one that the program
owes; and a program that a signal has ended leaves no other behind. -/
theorem Reachable.kept (h : Reachable behaviour arguments environment p) :
    p.main.Sound ∧ Kept p.history p.main.owed := by
  induction h with
  | begin => exact kept_begin _
  | step _ hstep ih => exact hstep.kept ih.1 ih.2

theorem Step.called (hstep : Step behaviour p p') {caller : Caller} {operation : Operation}
    (hcalled : .called caller operation ∈ p'.history) : .called caller operation ∈ p.history ∨
      ∃ request, (Control.Demand.ofRequest request).operation? = some operation := by
  cases hstep with
  | acts acts => exact Or.inl hcalled
  | heeds serving => exact Or.inl hcalled
  | leaves serving => exact Or.inl hcalled
  | dies running unheeded stops => exact Or.inl hcalled
  | works busy answer answers =>
      exact Or.inl ((List.mem_cons.mp hcalled).resolve_left (fun heq => (by cases heq)))
  | serves serving step heeded =>
      cases step with
      | goes step opened demanded =>
          exact (step.called_or hcalled).imp_right
            (fun hnow => (demanded caller operation hnow).imp (fun _ hasks => hasks.1))
      | _ => exact Or.inl ((List.mem_cons.mp hcalled).resolve_left (fun heq => (by cases heq)))

/-- Nobody but the program itself launches the first process or stops the last one. -/
theorem Reachable.called (h : Reachable behaviour arguments environment p) {caller : Caller}
    {operation : Operation} (hcalled : .called caller operation ∈ p.history) :
    operation ≠ .launchInitial ∧ operation ≠ .shutdown := by
  induction h with
  | begin => cases hcalled
  | step _ hstep ih =>
      rcases hstep.called hcalled with hbefore | ⟨request, hasks⟩
      · exact ih hbefore
      · cases hdemand : Control.Demand.ofRequest request <;> rw [hdemand] at hasks <;> cases hasks <;> simp

/-! ### Runs step by step -/

section Steps

variable {world world' : World} {main : Main} {run : Run} {heeds : Bool}
  {history : List (Supervisor.Event World)} {setup : Setup} {warden : Warden} {event : Host.Event}

theorem Reachable.acts (h : Reachable behaviour arguments environment ⟨world, main, heeds, history⟩)
    (acts : behaviour.acts world world') :
    Reachable behaviour arguments environment ⟨world', main, heeds, history⟩ := h.step (.acts acts)

theorem Reachable.works (h : Reachable behaviour arguments environment ⟨world, .busy run, heeds, history⟩)
    (answer : run.call.Answer) (answers : behaviour.answers world run.call answer world')
    (leads : Main.of (run.receive answer) = main) :
    Reachable behaviour arguments environment
      ⟨world', main, heeds, .exchanged none ⟨run.call, answer⟩ :: history⟩ := by
  rw [← leads]
  exact h.step (.works rfl answer answers)

/-- A server that nobody calls on waits for signals, and gets one. -/
theorem Reachable.asked {signal : Signal}
    (h : Reachable behaviour arguments environment
      ⟨world, .serving setup (.vacant warden) [] none, heeds, history⟩) (stops : signal.AsksToStop)
    (answers : behaviour.answers world .nextEvent (.signal signal) world') :
    Reachable behaviour arguments environment
      ⟨world', .serving setup (.vacant warden) [] (some (.signal signal)), true,
        .exchanged none ⟨.nextEvent, (.signal signal : Host.Event)⟩ :: history⟩ := by
  refine (h.step (.heeds rfl)).step (.serves rfl (.asks rfl rfl answers) ?_)
  intro other hother
  cases hother
  exact ⟨rfl, stops⟩

theorem Reachable.leaves
    (h : Reachable behaviour arguments environment
      ⟨world, .serving setup (.vacant warden) [] (some event), heeds, history⟩)
    (leads : Main.of (Run.came ⟨setup, .serving warden⟩ warden event) = main) :
    Reachable behaviour arguments environment ⟨world, main, heeds, history⟩ := by
  rw [← leads]
  exact h.step (.leaves rfl)

end Steps

namespace Sample

open Shared.Sample

/-- What a program does that is told nothing. -/
def setup : Setup where
  settings := {}
  filter := ⟨[⟨some "time_controller", none, [], ⟨3⟩⟩, ⟨some "supervisor", none, [], ⟨3⟩⟩,
    ⟨some "shared", none, [], ⟨3⟩⟩, ⟨some "tower_http", none, [], ⟨3⟩⟩, ⟨some "hyper", none, [], ⟨2⟩⟩]⟩

theorem opening : Opening.of [] .empty = .opened setup := rfl

/-- The supervisor, the process table and the history after the first launch. -/
def launched : Warden := ⟨setup.settings.deployment, some firstHandle, 1⟩

def table : ProcessTable := ⟨[{ pid := 7 }]⟩

def launch : List (Supervisor.Event ProcessTable) :=
  [.exchanged none ⟨.readDate, noon⟩,
    .exchanged none ⟨.spawn (setup.settings.deployment.command firstHandle.environment),
      (.ok 7 : Except Error Pid)⟩,
    .exchanged none ⟨.inherit, Environment.empty⟩]

theorem launched_reachable :
    Reachable ProcessTable.truthfulHost [] .empty
      ⟨table, .busy ⟨setup, .binding launched⟩, false, launch⟩ := by
  have h : Reachable ProcessTable.truthfulHost [] .empty _ := .begin
  rw [opening] at h
  have h := h.works Environment.empty ⟨rfl, trivial⟩ rfl
  have h := h.works (.ok 7 : Except Error Pid)
    ⟨⟨fun f hf => (by cases hf), rfl⟩, fun _ _ f hf => (by cases hf)⟩ rfl
  exact h.works noon ⟨rfl, trivial⟩ rfl

end Sample

end Program

end Service

end ClockWarden
