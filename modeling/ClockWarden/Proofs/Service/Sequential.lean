import ClockWarden.Proofs.Host.Punctual
import ClockWarden.Proofs.Service.Program

/-! One request after another. A run attends to a request until it is answered, and only then waits for the
next event; a program may have many requests at a time. Whatever a host lets a run do, it lets a program do,
with the same exchanges and the same outcome (`reachable_of_runs`): there is always a caller who has the
supervisor to himself. -/

namespace ClockWarden

open Host Supervisor

/-- The exchange that an event tells. -/
def Supervisor.Event.exchange? {World : Type} : Supervisor.Event World → Option Exchange
  | .exchanged _ exchange => some exchange
  | _ => none

/-- The exchanges that a history tells, whoever made them, the newest one first. -/
def Supervisor.exchanges {World : Type} (history : List (Supervisor.Event World)) : List Exchange :=
  history.filterMap Event.exchange?

/-- If a signal has been waited for, it asks to stop. -/
def Host.Exchange.IsHeeded (exchange : Exchange) : Prop :=
  ∀ signal, exchange = ⟨.nextEvent, (.signal signal : Host.Event)⟩ → signal.AsksToStop

namespace Service

/-- What a program is about while its run is at a turn. A request has the supervisor while it is attended to,
and nobody has it while it is responded to. -/
inductive Main.Follows : Turn Run Outcome → Main → Prop
  | same (turn : Turn Run Outcome) : Follows turn (.of turn)
  | attending {entries : List Log.Entry} {setup : Setup} {demand : Control.Demand} {caller : Caller}
      {operation : Operation} {underway : Operation.Underway} :
      Follows (.goOn entries ⟨setup, .attending demand underway⟩)
        (.serving setup (.taken caller operation underway) [] none)
  | responding {entries : List Log.Entry} {setup : Setup} {warden : Warden}
      {response : Option Http.Response} :
      Follows (.goOn entries ⟨setup, .responding warden response⟩)
        (.serving setup (.vacant warden) [] none)

namespace Main.Follows

theorem after {turn : Turn Run Outcome} {main : Main} (h : Follows turn main)
    (entries : List Log.Entry) : Follows (turn.after entries) main := by
  cases h with
  | same =>
      rw [← of_after entries]
      exact .same _
  | attending => exact .attending
  | responding => exact .responding

/-- Whoever has the supervisor goes on with it, or has done with it and is responded to. -/
theorem of_proceed {World : Type} {s : Shared World} (hwaiting : s.waiting = []) (r : Run)
    (demand : Control.Demand) (caller : Caller) (operation : Operation)
    (turn : Turn Operation.Underway Operation.Result) :
    Follows (turn.within (fun u => { r with stage := .attending demand u }) (r.attended demand))
      (.serving r.setup (s.proceed caller operation turn).seat
        (s.proceed caller operation turn).waiting none) := by
  cases turn with
  | goOn entries underway =>
      change Follows _ (.serving r.setup (.taken caller operation underway) s.waiting none)
      rw [hwaiting]
      exact .attending
  | finish entries result =>
      change Follows _ (.serving r.setup (.vacant result.1) s.waiting none)
      rw [hwaiting]
      exact .responding

end Main.Follows

namespace Program

variable {World : Type} {behaviour : Behaviour World} {p : Program World} {setup : Setup}
  {seat : Seat} {waiting : List (Caller × Operation)} {supervisor : Shared World}

/-- A program goes on to where a run has come, by the exchanges that are given. -/
def Reaches (behaviour : Behaviour World) (p : Program World) (turn : Turn Run Outcome) (world : World)
    (made : List Exchange) : Prop :=
  ∃ p', Leads behaviour p p' ∧ Main.Follows turn p'.main ∧ p'.world = world ∧
    exchanges p'.history = made ++ exchanges p.history

/-- A server that has not been asked to stop takes a step. -/
theorem Step.served (serving : p.main = .serving setup seat waiting none)
    (step : Session.Step behaviour ⟨⟨p.world, seat, waiting, p.history⟩, none⟩ ⟨supervisor, none⟩) :
    Step behaviour p (p.serve setup ⟨supervisor, none⟩) :=
  .serves serving step (fun signal hasked => (by cases hasked))

theorem leads_of_becomes {world : World} (h : behaviour.Becomes p.world world) :
    Leads behaviour p { p with world } := by
  induction h with
  | refl => exact .refl
  | tail _ acts ih => exact ih.tail (.acts acts)

section Attending

variable {caller : Caller} {operation : Operation} {turn : Turn Operation.Underway Operation.Result}

/-- A turn of whoever has the supervisor makes no exchange, and nobody lets go of it. -/
theorem proceed_told (s : Shared World) (caller : Caller) (operation : Operation)
    (turn : Turn Operation.Underway Operation.Result) :
    (s.proceed caller operation turn).seat.IsOpen ∧
      (s.proceed caller operation turn).world = s.world ∧
      exchanges (s.proceed caller operation turn).history = exchanges s.history := by
  cases turn <;> exact ⟨trivial, rfl, rfl⟩

theorem of_proceed_called {s : Shared World} {other : Caller} {task : Operation}
    {older : List (Supervisor.Event World)}
    (h : (s.proceed caller operation turn).history = .called other task :: older) :
    s.history = .called other task :: older := by
  cases turn with
  | goOn entries underway => exact h
  | finish entries result => cases h

/-- An exchange is made by whoever has the supervisor. -/
theorem reaches_exchange {r : Run} (demand : Control.Demand) {underway : Operation.Underway}
    {world : World} (serving : p.main = .serving r.setup (.taken caller operation underway) [] none)
    (answer : underway.call.Answer) (answers : behaviour.answers p.world underway.call answer world) :
    Reaches behaviour p
      ((underway.receive answer).within (fun u => { r with stage := .attending demand u })
        (r.attended demand))
      world [⟨underway.call, answer⟩] := by
  let s : Shared World := ⟨p.world, .taken caller operation underway, [], p.history⟩
  let answered := s.answered (some caller) ⟨underway.call, answer⟩ world
  obtain ⟨hopen, hworld, hexchanges⟩ := proceed_told answered caller operation (underway.receive answer)
  have hstep : Session.Step behaviour ⟨s, none⟩
      ⟨answered.proceed caller operation (underway.receive answer), none⟩ := by
    refine .goes (.exchange rfl answer answers) hopen ?_
    intro other task hcalled
    cases of_proceed_called hcalled
  exact ⟨_, .single (.served serving hstep), .of_proceed rfl r demand caller operation _, hworld,
    hexchanges⟩

/-- Somebody calls for what a request asks for, and has the supervisor if it can be done. -/
theorem reaches_attend {r : Run} {request : Http.Request} {warden : Warden}
    (serving : p.main = .serving r.setup (.vacant warden) [] none)
    (asks : (Control.Demand.ofRequest request).operation? = some operation)
    (came : .exchanged none ⟨.nextEvent, (.request request : Host.Event)⟩ ∈ p.history) :
    Reaches behaviour p (r.attend warden (Control.Demand.ofRequest request) operation) p.world [] := by
  obtain ⟨caller, hfresh⟩ := Shared.exists_fresh p.history
  let s : Shared World :=
    ⟨p.world, .vacant warden, [(caller, operation)], .called caller operation :: p.history⟩
  have hcalls : Session.Step behaviour ⟨⟨p.world, .vacant warden, [], p.history⟩, none⟩ ⟨s, none⟩ := by
    refine .goes (.call (Or.inl ⟨warden, rfl⟩) hfresh) trivial ?_
    intro other task hcalled
    cases hcalled
    exact ⟨request, asks, came⟩
  -- Nobody has the supervisor, so the caller has it at once or is refused.
  have hleads : Leads behaviour p (p.serve r.setup ⟨s, none⟩) := .single (.served serving hcalls)
  have hleft : (s.leave caller operation).waiting = [] := List.erase_cons_head ..
  obtain ⟨hopen, hworld, hexchanges⟩ :=
    proceed_told (s.leave caller operation) caller operation (operation.start warden)
  have hstep : Shared.Step behaviour s
      ((s.leave caller operation).proceed caller operation (operation.start warden)) := by
    cases hasks : operation.task with
    | ok task => exact .acquire List.mem_cons_self hasks rfl
    | error refusal =>
        rw [Operation.start_of_refused hasks]
        exact .refuse List.mem_cons_self hasks
  have hbegins : Session.Step behaviour ⟨s, none⟩
      ⟨(s.leave caller operation).proceed caller operation (operation.start warden), none⟩ := by
    refine .goes hstep hopen ?_
    intro other task hcalled
    exact absurd (of_proceed_called hcalled).symm (List.cons_ne_self _ _)
  exact ⟨_, hleads.tail (.served rfl hbegins), .of_proceed hleft r _ caller operation _, hworld,
    hexchanges⟩

end Attending

/-! ### Runs -/

/-- A server that waits for what comes next is told of an event. -/
theorem reaches_event {warden : Warden} {event : Host.Event} {world : World}
    (serving : p.main = .serving setup (.vacant warden) [] none)
    (heeded : Exchange.IsHeeded ⟨.nextEvent, event⟩)
    (answers : behaviour.answers p.world .nextEvent event world) :
    Reaches behaviour p (Run.came ⟨setup, .serving warden⟩ warden event) world
      [⟨.nextEvent, event⟩] := by
  by_cases hends : event.served?.isSome
  -- A signal asks a program to stop only if somebody waits for it, so that comes first.
  · have hheeds : Leads behaviour p { p with heeds := true } := .single (.heeds serving)
    have hasked := hheeds.tail (.serves serving (.asks rfl hends answers) (by
      intro signal hsignal
      cases hsignal
      exact ⟨rfl, heeded signal rfl⟩))
    exact ⟨_, hasked.tail (.leaves rfl), .same _, rfl, rfl⟩
  · obtain ⟨request, rfl⟩ : ∃ request, event = .request request := by
      cases event with
      | request request => exact ⟨request, rfl⟩
      | _ => exact absurd rfl hends
    let s : Shared World := ⟨p.world, .vacant warden, [], p.history⟩
    let came := p.serve setup
      ⟨s.answered none ⟨.nextEvent, (.request request : Host.Event)⟩ world, none⟩
    have hcomes : Step behaviour p came := .served serving (.comes answers)
    cases hdemand : Control.Demand.ofRequest request with
    | answered response =>
        rw [Run.came_of_answered hdemand]
        exact ⟨_, .single hcomes, .responding, rfl, rfl⟩
    | _ =>
        let r : Run := ⟨setup, .serving warden⟩
        have hserving : came.main = .serving r.setup (.vacant warden) [] none := rfl
        obtain ⟨entries, hcame⟩ := Run.came_of_operation (by rw [hdemand]; rfl) r warden
        obtain ⟨p', hleads, hfollows, hworld, hmade⟩ :=
          reaches_attend hserving (by rw [hdemand]; rfl) List.mem_cons_self
        rw [hcame]
        exact ⟨p', hleads.head hcomes, hfollows.after entries, hworld, hmade⟩

/-- What a run is answered, a program is answered. -/
theorem reaches_receive {entries : List Log.Entry} {r : Run}
    (h : Main.Follows (.goOn entries r) p.main) (answer : r.call.Answer) {world : World}
    (heeded : Exchange.IsHeeded ⟨r.call, answer⟩) (answers : behaviour.answers p.world r.call answer world) :
    Reaches behaviour p (r.receive answer) world [⟨r.call, answer⟩] := by
  obtain ⟨world', main, heeds, history⟩ := p
  cases h with
  | attending => exact reaches_exchange _ rfl answer answers
  | responding => exact ⟨_, .single (.served rfl (.responds answers)), .same _, rfl, rfl⟩
  | same =>
      obtain ⟨setup, stage⟩ := r
      cases stage with
      | serving warden => exact reaches_event rfl heeded answers
      | _ => exact ⟨_, .single (.works rfl answer answers), .same _, rfl, rfl⟩

theorem leads_of_runs {turn : Turn Run Outcome} {made : List Exchange} {outcome : Outcome}
    (h : Run.machine.Runs turn made outcome) (hfollows : Main.Follows turn p.main) {world : World}
    (hadmits : behaviour.Admits p.world made world) (hheeded : ∀ exchange ∈ made, exchange.IsHeeded) :
    ∃ p', Leads behaviour p p' ∧ p'.main = .finished outcome ∧ p'.world = world ∧
      exchanges p'.history = made.reverse ++ exchanges p.history := by
  induction h generalizing p with
  | finish =>
      cases hadmits with
      | nil becomes =>
          obtain ⟨before, main, heeds, history⟩ := p
          cases hfollows with
          | same => exact ⟨_, leads_of_becomes becomes, rfl, rfl, rfl⟩
  | goOn _ ih =>
      cases hadmits with
      | @cons _ later _ _ _ _ _ becomes answers rest =>
          rw [List.forall_mem_cons] at hheeded
          let ready : Program World := { p with world := later }
          have hready : Main.Follows _ ready.main := hfollows
          obtain ⟨p', hleads, hnext, rfl, hmade⟩ := reaches_receive hready _ hheeded.1 answers
          obtain ⟨last, hrest, hmain, hworld, hlast⟩ := ih hnext rest hheeded.2
          refine ⟨last, ((leads_of_becomes becomes).trans hleads).trans hrest, hmain, hworld, ?_⟩
          rw [hlast, hmade, List.reverse_cons, List.append_assoc]
          rfl

/-- Whatever a host lets a run do from its beginning to its end, it lets a program do, if the run is told of no
other signals than those that ask it to stop. -/
theorem reachable_of_runs {arguments : List Bytes} {environment : Environment} {setup : Setup}
    (hopened : Opening.of arguments environment = .opened setup) {made : List Exchange}
    {outcome : Outcome} (h : Run.machine.Runs (Run.start setup) made outcome) {world : World}
    (hadmits : behaviour.Admits behaviour.begins made world)
    (hheeded : ∀ exchange ∈ made, exchange.IsHeeded) :
    ∃ p, Reachable behaviour arguments environment p ∧ p.main = .finished outcome ∧ p.world = world ∧
      exchanges p.history = made.reverse := by
  let first : Program World := { world := behaviour.begins, main := .of (Run.start setup) }
  have hbegin : Reachable behaviour arguments environment _ := .begin
  rw [hopened] at hbegin
  have hfollows : Main.Follows (Run.start setup) first.main := .same _
  obtain ⟨p, hleads, hmain, hworld, hmade⟩ := leads_of_runs h hfollows hadmits hheeded
  exact ⟨p, hbegin.leads hleads, hmain, hworld, hmade.trans (List.append_nil _)⟩

end Program

end Service

end ClockWarden
