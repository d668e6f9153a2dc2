import ClockWarden.Proofs.Service.Program

/-! The course of the control program. It tries once to launch, then to listen, serves if it can, tries once
to stop, and lets go of the supervisor (`Stands`); whether the launch or the stop succeeds changes nothing about
this. Every program that has opened is somewhere on this course (`Program.Reachable.stands`), and one that has
not opened does nothing (`Program.Reachable.idle`). -/

namespace ClockWarden.Service

open Host Supervisor

/-- How a program ends after serving and a last stop. -/
def Outcome.of (served : Except Control.Failure Unit) : Operation.Reply → Outcome
  | .overflowed => .overflowed
  | _ =>
    match served with
    | .ok () => .stopped
    | .error failure => .failed failure

theorem Run.ended_eq (r : Run) (served : Except Control.Failure Unit) (warden : Warden)
    (reply : Operation.Reply) :
    ∃ entries, r.ended served (warden, reply) = (r.close warden (.of served reply)).after entries := by
  cases reply with
  | overflowed =>
      refine ⟨[], ?_⟩
      cases hclose : r.close warden .overflowed <;> simp only [ended, Outcome.of, hclose] <;> rfl
  | _ => cases served <;> exact ⟨_, rfl⟩

theorem Run.came_of_served {event : Host.Event} {served : Except Control.Failure Unit}
    (h : event.served? = some served) (r : Run) (warden : Warden) :
    ∃ entries, r.came warden event = (r.stop warden served).after entries := by
  cases event with
  | request request => cases h
  | signal signal =>
      cases h
      exact ⟨_, rfl⟩
  | broken cause =>
      cases h
      refine ⟨[], ?_⟩
      cases hstop : r.stop warden (.error (.host cause)) <;> simp only [came, hstop] <;> rfl

section Course

variable {World : Type} (behaviour : Behaviour World) (setup : Setup)

/-- The first turn of the first launch. -/
def firstLaunch : Turn Operation.Underway Operation.Result :=
  Operation.start (Run.warden setup) .launchInitial

/-- The first launch has been tried, and has come to a result. -/
inductive Launched : List (Supervisor.Event World) → Warden → Prop
  | tried {exchanges : List Exchange} {warden : Warden} {result : Except Supervisor.Failure Confirmation}
      (runs : Operation.Underway.machine.Runs (firstLaunch setup) exchanges (warden, .launched result)) :
      Launched (told exchanges) warden

/-- A server that listens at an address begins to work. -/
def opens (world : World) (warden : Warden) (address : Net.SocketAddress)
    (history : List (Supervisor.Event World)) : Session World where
  supervisor :=
    ⟨world, .vacant warden, [],
      .exchanged none ⟨.listen setup.settings.bind, (.ok address : Except Error _)⟩ :: history⟩

/-- Serving has come to an end, or could not begin. -/
inductive Served : List (Supervisor.Event World) → Warden → Except Control.Failure Unit → Prop
  | unbound {history : List (Supervisor.Event World)} {warden : Warden} {cause : Error}
      (launched : Launched setup history warden) :
      Served
        (.exchanged none
          ⟨.listen setup.settings.bind, (.error cause : Except Error Net.SocketAddress)⟩ :: history)
        warden (.error (.startup setup.settings.bind cause))
  | ended {world later : World} {history history' : List (Supervisor.Event World)}
      {warden warden' : Warden} {address : Net.SocketAddress} {event : Host.Event}
      {served : Except Control.Failure Unit} (launched : Launched setup history warden)
      (works : Relation.ReflTransGen (Session.Step behaviour) (opens setup world warden address history)
        ⟨⟨later, .vacant warden', [], history'⟩, some event⟩)
      (ends : event.served? = some served) : Served history' warden' served

/-- The last stop has been tried, and has come to a reply. -/
inductive Stopped : List (Supervisor.Event World) → Warden → Outcome → Prop
  | tried {history : List (Supervisor.Event World)} {warden left : Warden}
      {served : Except Control.Failure Unit} {exchanges : List Exchange} {reply : Operation.Reply}
      (serves : Served behaviour setup history warden served)
      (runs : Operation.Underway.machine.Runs (Operation.start warden .shutdown) exchanges (left, reply)) :
      Stopped (told exchanges ++ history) left (.of served reply)

/-- The supervisor has been let go of, and nothing is left to be done. -/
inductive Concluded : List (Supervisor.Event World) → Outcome → Prop
  | dropped {history : List (Supervisor.Event World)} {warden : Warden} {outcome : Outcome}
      {exchanges : List Exchange} (stopped : Stopped behaviour setup history warden outcome)
      (runs : Discard.machine.Runs warden.drop exchanges ()) :
      Concluded (told exchanges ++ history) outcome

/-- How far a program has come that has opened: what it has done by now, and what it is about. -/
inductive Stands : World → List (Supervisor.Event World) → Main → Prop
  | launching {world : World} {exchanges : List Exchange} {entries : List Log.Entry}
      {underway : Operation.Underway}
      (path : Operation.Underway.machine.Path (firstLaunch setup) exchanges (.goOn entries underway)) :
      Stands world (told exchanges) (.busy ⟨setup, .launching underway⟩)
  | binding {world : World} {history : List (Supervisor.Event World)} {warden : Warden}
      (launched : Launched setup history warden) : Stands world history (.busy ⟨setup, .binding warden⟩)
  | serving {world later : World} {history history' : List (Supervisor.Event World)} {warden : Warden}
      {address : Net.SocketAddress} {seat : Seat} {waiting : List (Caller × Operation)}
      {asked : Option Host.Event} (launched : Launched setup history warden)
      (works : Relation.ReflTransGen (Session.Step behaviour) (opens setup world warden address history)
        ⟨⟨later, seat, waiting, history'⟩, asked⟩) :
      Stands later history' (.serving setup seat waiting asked)
  | stopping {world : World} {history : List (Supervisor.Event World)} {warden : Warden}
      {served : Except Control.Failure Unit} {exchanges : List Exchange} {entries : List Log.Entry}
      {underway : Operation.Underway} (serves : Served behaviour setup history warden served)
      (path : Operation.Underway.machine.Path (Operation.start warden .shutdown) exchanges
        (.goOn entries underway)) :
      Stands world (told exchanges ++ history) (.busy ⟨setup, .stopping underway served⟩)
  | closing {world : World} {history : List (Supervisor.Event World)} {warden : Warden}
      {outcome : Outcome} {exchanges : List Exchange} {entries : List Log.Entry} {discard : Discard}
      (stopped : Stopped behaviour setup history warden outcome)
      (path : Discard.machine.Path warden.drop exchanges (.goOn entries discard)) :
      Stands world (told exchanges ++ history) (.busy ⟨setup, .closing discard outcome⟩)
  | finished {world : World} {history : List (Supervisor.Event World)} {outcome : Outcome}
      (concluded : Concluded behaviour setup history outcome) : Stands world history (.finished outcome)
  | killed {world later : World} {history : List (Supervisor.Event World)} {signal : Signal} {doing : Main}
      (stands : Stands world history doing) : Stands later history (.killed signal doing)

end Course

/-! ### The first launch -/

/-- A process is being started, and none was there to be stopped. -/
def IsFirst (u : Operation.Underway) : Prop :=
  (∃ time, u.stage = .inheriting time) ∨ ∃ launch, u.stage = .launching launch

theorem isFirst_receive (u : Operation.Underway) (answer : u.call.Answer) (h : IsFirst u) :
    (u.receive answer).Leads IsFirst (fun last => ∃ result, last.2 = .launched result) := by
  obtain ⟨deployment, count, stage⟩ := u
  obtain ⟨time, rfl⟩ | ⟨⟨program, environment, time, stage⟩, rfl⟩ := h
  · exact Or.inr ⟨_, rfl⟩
  · cases stage with
    | spawning =>
        rcases answer with cause | pid
        · exact ⟨_, rfl⟩
        · exact Or.inr ⟨_, rfl⟩
    | stamping pid => exact ⟨_, rfl⟩

/-- The first launch stops nothing, for there is nothing to be stopped: it comes to a result, and no call that
it makes is about a process or a group. -/
theorem first_of_path {setup : Setup} {exchanges : List Exchange}
    {turn : Turn Operation.Underway Operation.Result}
    (h : Operation.Underway.machine.Path (firstLaunch setup) exchanges turn) :
    turn.Leads IsFirst (fun last => ∃ result, last.2 = .launched result) ∧
      ∀ exchange ∈ exchanges, exchange.call.subject? = none := by
  have hbegins : (firstLaunch setup).Leads IsFirst (fun last => ∃ result, last.2 = .launched result) :=
    Or.inl ⟨none, rfl⟩
  obtain ⟨hturn, hcalls⟩ := h.leads isFirst_receive hbegins
  refine ⟨hturn, fun exchange hmem => ?_⟩
  obtain ⟨⟨deployment, count, stage⟩, hfirst, hcall⟩ := hcalls exchange hmem
  rw [hcall]
  obtain ⟨time, rfl⟩ | ⟨⟨program, environment, time, stage⟩, rfl⟩ := hfirst
  · rfl
  · cases stage <;> rfl

namespace Session

variable {World : Type} {behaviour : Behaviour World} {setup : Setup} {world : World} {warden : Warden}
  {address : Net.SocketAddress} {history : List (Supervisor.Event World)} {v : Session World}

/-- A server at work stays open. -/
theorem works_open
    (h : Relation.ReflTransGen (Step behaviour) (opens setup world warden address history) v) :
    v.supervisor.seat.IsOpen := by
  induction h with
  | refl => exact trivial
  | tail _ hstep ih =>
      cases hstep with
      | goes step opened demanded => exact opened
      | _ => exact ih

/-- Whatever has asked a server to stop is something that ends serving. -/
theorem works_asked
    (h : Relation.ReflTransGen (Step behaviour) (opens setup world warden address history) v) :
    ∀ event, v.asked = some event → event.served?.isSome := by
  induction h with
  | refl => exact fun event hasked => (by cases hasked)
  | tail _ hstep ih =>
      cases hstep with
      | asks first ends answers =>
          intro event hasked
          cases hasked
          exact ends
      | _ => exact ih

end Session

namespace Stands

variable {World : Type} {behaviour : Behaviour World} {setup : Setup} {world later : World}
  {history : List (Supervisor.Event World)} {exchanges : List Exchange}

/-! ### One step -/

theorem of_launch {turn : Turn Operation.Underway Operation.Result} (stage : Stage)
    (path : Operation.Underway.machine.Path (firstLaunch setup) exchanges turn) :
    Stands behaviour setup world (told exchanges)
      (.of (turn.within (fun u => ⟨setup, .launching u⟩) (Run.launched ⟨setup, stage⟩))) := by
  cases turn with
  | goOn entries underway => exact .launching path
  | finish entries result =>
      obtain ⟨warden, reply⟩ := result
      obtain ⟨⟨result, rfl⟩, -⟩ := first_of_path path
      exact .binding (.tried path.runs_of_finish)

theorem of_drop {turn : Turn Discard Unit} {warden : Warden} {outcome : Outcome}
    (stopped : Stopped behaviour setup history warden outcome)
    (path : Discard.machine.Path warden.drop exchanges turn) :
    Stands behaviour setup world (told exchanges ++ history)
      (.of (turn.within (fun d => ⟨setup, .closing d outcome⟩) (fun _ => .finish [] outcome))) := by
  cases turn with
  | goOn entries discard => exact .closing stopped path
  | finish entries result => exact .finished (.dropped stopped path.runs_of_finish)

theorem of_stop {turn : Turn Operation.Underway Operation.Result} {warden : Warden}
    {served : Except Control.Failure Unit} (stage : Stage)
    (serves : Served behaviour setup history warden served)
    (path : Operation.Underway.machine.Path (Operation.start warden .shutdown) exchanges turn) :
    Stands behaviour setup world (told exchanges ++ history)
      (.of (turn.within (fun u => ⟨setup, .stopping u served⟩) (Run.ended ⟨setup, stage⟩ served))) := by
  cases turn with
  | goOn entries underway => exact .stopping serves path
  | finish entries result =>
      -- Whatever the last stop has come to, the supervisor is let go of next.
      obtain ⟨left, reply⟩ := result
      obtain ⟨later, hended⟩ := Run.ended_eq ⟨setup, stage⟩ served left reply
      change Stands _ _ _ _ (.of ((Run.ended ⟨setup, stage⟩ served (left, reply)).after entries))
      rw [Main.of_after, hended, Main.of_after]
      have hdrop : Stands behaviour setup world (told [] ++ (told exchanges ++ history)) _ :=
        of_drop (.tried serves path.runs_of_finish) .here
      exact hdrop

theorem of_serve {warden : Warden} {served : Except Control.Failure Unit} (stage : Stage)
    (serves : Served behaviour setup history warden served) :
    Stands behaviour setup world history (.of (Run.stop ⟨setup, stage⟩ warden served)) := by
  have hstop : Stands behaviour setup world (told [] ++ history) _ := of_stop stage serves .here
  exact hstop

theorem acts {main : Main} (h : Stands behaviour setup world history main)
    (acts : behaviour.acts world later) : Stands behaviour setup later history main := by
  cases h with
  | launching path => exact .launching path
  | binding launched => exact .binding launched
  | stopping serves path => exact .stopping serves path
  | closing stopped path => exact .closing stopped path
  | finished concluded => exact .finished concluded
  | killed stands => exact .killed stands
  | serving launched works =>
      refine .serving launched (works.tail (.goes (.host acts) (Session.works_open works) ?_))
      exact fun caller operation hsame => absurd hsame.symm (List.cons_ne_self _ _)

theorem receive {run : Run} (h : Stands behaviour setup world history (.busy run))
    (answer : run.call.Answer) :
    Stands behaviour setup later (.exchanged none ⟨run.call, answer⟩ :: history)
      (.of (run.receive answer)) := by
  cases h with
  | launching path =>
      rw [← told_concat]
      exact of_launch _ (path.step answer)
  | binding launched =>
      rcases answer with cause | address
      · exact of_serve _ (.unbound launched)
      · exact .serving launched .refl
  | stopping serves path =>
      rw [← List.cons_append, ← told_concat]
      exact of_stop _ serves (path.step answer)
  | closing stopped path =>
      rw [← List.cons_append, ← told_concat]
      exact of_drop stopped (path.step answer)

end Stands

namespace Program

variable {World : Type} {behaviour : Behaviour World} {arguments : List Bytes}
  {environment : Environment} {setup : Setup} {p p' : Program World}

theorem Step.stands (hstep : Step behaviour p p')
    (h : Stands behaviour setup p.world p.history p.main) :
    Stands behaviour setup p'.world p'.history p'.main := by
  obtain ⟨world, main, heeds, history⟩ := p
  cases hstep with
  | acts acts => exact h.acts acts
  | heeds serving => exact h
  | dies running unheeded stops => exact .killed h
  | works busy answer answers =>
      obtain rfl : main = _ := busy
      exact h.receive answer
  | serves serving step heeded =>
      obtain rfl : main = _ := serving
      cases h with
      | serving launched works => exact .serving launched (works.tail step)
  | @leaves setup' warden event serving =>
      obtain rfl : main = _ := serving
      cases h with
      | serving launched works =>
          obtain ⟨served, hserved⟩ := Option.isSome_iff_exists.mp (Session.works_asked works event rfl)
          obtain ⟨entries, hcame⟩ := Run.came_of_served hserved ⟨setup, .serving warden⟩ warden
          change Stands _ _ _ _ (.of (Run.came ⟨setup, .serving warden⟩ warden event))
          rw [hcame, Main.of_after]
          exact Stands.of_serve _ (.ended launched works hserved)

theorem Reachable.stands (h : Reachable behaviour arguments environment p)
    (hopened : Opening.of arguments environment = .opened setup) :
    Stands behaviour setup p.world p.history p.main := by
  induction h with
  | begin =>
      rw [hopened]
      exact Stands.launching .here
  | step _ hstep ih => exact hstep.stands ih

/-- A program that has not opened does nothing. -/
theorem Reachable.idle (h : Reachable behaviour arguments environment p)
    (hclosed : ¬(Main.begin (Opening.of arguments environment)).IsRunning) :
    p.main = .begin (Opening.of arguments environment) ∧ p.history = [] := by
  induction h with
  | begin => exact ⟨rfl, rfl⟩
  | @step p p' _ hstep ih =>
      obtain ⟨hmain, hhistory⟩ := ih
      rw [← hmain] at hclosed
      cases hstep with
      | acts acts => exact ⟨hmain, hhistory⟩
      | heeds serving => exact ⟨hmain, hhistory⟩
      | dies running unheeded stops => exact absurd running hclosed
      | works busy answer answers => exact absurd (by rw [busy]; trivial) hclosed
      | serves serving step heeded => exact absurd (by rw [serving]; trivial) hclosed
      | leaves serving => exact absurd (by rw [serving]; trivial) hclosed

/-- A program that runs has opened. -/
theorem Reachable.opened (h : Reachable behaviour arguments environment p) (hruns : p.main.IsRunning) :
    ∃ setup, Opening.of arguments environment = .opened setup ∧
      Stands behaviour setup p.world p.history p.main := by
  cases hopening : Opening.of arguments environment with
  | opened setup => exact ⟨setup, rfl, h.stands hopening⟩
  | _ =>
      rw [(h.idle (by rw [hopening]; exact id)).1, hopening] at hruns
      exact hruns.elim

end Program

end ClockWarden.Service
