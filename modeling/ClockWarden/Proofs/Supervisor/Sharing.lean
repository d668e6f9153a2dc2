import ClockWarden.Proofs.Supervisor.Stages

/-! A supervisor that many callers share. A caller waits until nobody has the supervisor, has it from
the first exchange with the host to the last, and may be given up while it waits for the supervisor or
at an exchange that takes time. Between any two exchanges everybody else may go on, and so may the
host. `Reachable` collects all runs. On every host the handle says at each stage what that stage needs,
and no process that is still managed is marked as retired (`Reachable.sound`). -/

namespace ClockWarden.Supervisor

open Host

/-- A call on a supervisor; each bears a number of its own. -/
abbrev Caller := Nat

/-- Who has a supervisor, that is, who holds the lock on its state. -/
inductive Seat where
  | vacant (warden : Warden)
  | taken (caller : Caller) (operation : Operation) (underway : Operation.Underway)
  /-- Nobody can call any more, and the supervisor is being let go of. -/
  | closing (discard : Discard)
  | closed

/-- What a history tells. -/
inductive Event (World : Type) where
  | called (caller : Caller) (operation : Operation)
  /-- An exchange with the host, by a caller or at the very end by nobody. -/
  | exchanged (caller : Option Caller) (exchange : Exchange)
  /-- A call has been answered, while the host stood as it did. -/
  | returned (caller : Caller) (operation : Operation) (reply : Operation.Reply) (world : World)
  | givenUp (caller : Caller)

/-- A shared supervisor and its host. The history has the newest event first. -/
structure Shared (World : Type) where
  world : World
  seat : Seat
  waiting : List (Caller × Operation) := []
  history : List (Event World) := []

/-- The answer to a request that asks nothing of the supervisor. -/
def Operation.Reply.refused (refusal : FakeTime.Refusal) : Operation.Reply :=
  .launched (.error (.badRequest (.fakeTime refusal)))

/-- A request without a usable fake time is refused before the supervisor is looked at. -/
theorem Operation.start_of_refused {operation : Operation} {refusal : FakeTime.Refusal}
    (h : operation.task = .error refusal) (s : Warden) :
    operation.start s = .finish [] (s, .refused refusal) := by
  simp only [start, h, Reply.refused]

theorem Operation.start_of_task {operation : Operation} {task : Task} (h : operation.task = .ok task)
    (s : Warden) : operation.start s = task.start s := by
  simp only [start, h]

namespace Shared

variable {World : Type}

/-- The supervisor after a turn of whoever has it. -/
def proceed (s : Shared World) (caller : Caller) (operation : Operation) :
    Turn Operation.Underway Operation.Result → Shared World
  | .goOn _ underway => { s with seat := .taken caller operation underway }
  | .finish _ (warden, reply) =>
    { s with
      seat := .vacant warden
      history := .returned caller operation reply s.world :: s.history }

/-- The supervisor after a turn of letting go of it. -/
def letGo (s : Shared World) : Turn Discard Unit → Shared World
  | .goOn _ discard => { s with seat := .closing discard }
  | .finish _ _ => { s with seat := .closed }

/-- What the host has answered becomes part of the history. -/
def answered (s : Shared World) (caller : Option Caller) (exchange : Exchange) (world : World) :
    Shared World :=
  { s with world, history := .exchanged caller exchange :: s.history }

/-- A caller leaves the queue. -/
def leave (s : Shared World) (caller : Caller) (operation : Operation) : Shared World :=
  { s with waiting := s.waiting.erase (caller, operation) }

/-- One step of a shared supervisor. -/
inductive Step (behaviour : Behaviour World) : Shared World → Shared World → Prop
  | host {s : Shared World} {world : World} (acts : behaviour.acts s.world world) :
      Step behaviour s { s with world }
  | call {s : Shared World} {caller : Caller} {operation : Operation}
      (opened : (∃ warden, s.seat = .vacant warden) ∨
        ∃ other task underway, s.seat = .taken other task underway)
      (fresh : ∀ task, .called caller task ∉ s.history) :
      Step behaviour s
        { s with
          waiting := (caller, operation) :: s.waiting
          history := .called caller operation :: s.history }
  /-- A request that asks nothing of the supervisor is answered at once. -/
  | refuse {s : Shared World} {caller : Caller} {operation : Operation} {refusal : FakeTime.Refusal}
      (waits : (caller, operation) ∈ s.waiting) (refused : operation.task = .error refusal) :
      Step behaviour s
        { s.leave caller operation with
          history := .returned caller operation (.refused refusal) s.world :: s.history }
  | acquire {s : Shared World} {caller : Caller} {operation : Operation} {task : Operation.Task}
      {warden : Warden} (waits : (caller, operation) ∈ s.waiting) (asks : operation.task = .ok task)
      (vacant : s.seat = .vacant warden) :
      Step behaviour s ((s.leave caller operation).proceed caller operation (operation.start warden))
  | exchange {s : Shared World} {caller : Caller} {operation : Operation}
      {underway : Operation.Underway} {world : World}
      (taken : s.seat = .taken caller operation underway) (answer : underway.call.Answer)
      (answers : behaviour.answers s.world underway.call answer world) :
      Step behaviour s
        ((s.answered caller ⟨underway.call, answer⟩ world).proceed caller operation
          (underway.receive answer))
  | giveUpWaiting {s : Shared World} {caller : Caller} {operation : Operation}
      (waits : (caller, operation) ∈ s.waiting) :
      Step behaviour s
        { s.leave caller operation with history := .givenUp caller :: s.history }
  /-- A call is given up while it waits for an answer of the host. -/
  | giveUp {s : Shared World} {caller : Caller} {operation : Operation}
      {underway : Operation.Underway} (taken : s.seat = .taken caller operation underway)
      (suspended : underway.call.suspends = true) :
      Step behaviour s
        { s with
          seat := .vacant underway.interrupted
          history := .givenUp caller :: s.history }
  /-- The supervisor is let go of when nobody uses it. -/
  | close {s : Shared World} {warden : Warden} (vacant : s.seat = .vacant warden)
      (unused : s.waiting = []) : Step behaviour s (s.letGo warden.drop)
  | closing {s : Shared World} {discard : Discard} {world : World}
      (closes : s.seat = .closing discard) (answer : discard.call.Answer)
      (answers : behaviour.answers s.world discard.call answer world) :
      Step behaviour s
        ((s.answered none ⟨discard.call, answer⟩ world).letGo (discard.receive answer))

/-- The supervisors that a run leads to. -/
inductive Reachable (behaviour : Behaviour World) (deployment : Deployment) : Shared World → Prop
  | begin : Reachable behaviour deployment
      { world := behaviour.begins, seat := .vacant { deployment } }
  | step {s s' : Shared World} :
      Reachable behaviour deployment s → Step behaviour s s' → Reachable behaviour deployment s'

/-- There is always a number that no call bears. -/
theorem exists_fresh (history : List (Event World)) :
    ∃ caller, ∀ task, .called caller task ∉ history := by
  suffices h : ∃ bound, ∀ caller task, .called caller task ∈ history → caller < bound by
    obtain ⟨bound, hbound⟩ := h
    exact ⟨bound, fun task hmem => Nat.lt_irrefl bound (hbound bound task hmem)⟩
  induction history with
  | nil => exact ⟨0, by simp⟩
  | cons event history ih =>
      obtain ⟨bound, hbound⟩ := ih
      cases event with
      | called caller task =>
          refine ⟨max bound (caller + 1), ?_⟩
          intro other task' hmem
          rcases List.mem_cons.mp hmem with heq | hmem
          · cases heq
            exact Nat.lt_of_lt_of_le (Nat.lt_succ_self caller) (Nat.le_max_right bound (caller + 1))
          · exact Nat.lt_of_lt_of_le (hbound other task' hmem) (Nat.le_max_left bound (caller + 1))
      | _ =>
          refine ⟨bound, fun caller task hmem => hbound caller task ?_⟩
          rcases List.mem_cons.mp hmem with heq | hmem
          · cases heq
          · exact hmem

theorem history_proceed (s : Shared World) (caller : Caller) (operation : Operation)
    (turn : Turn Operation.Underway Operation.Result) :
    s.history <:+ (s.proceed caller operation turn).history := by
  cases turn with
  | goOn entries next => exact List.suffix_rfl
  | finish entries result => exact List.suffix_cons _ _

/-- What a history had told stays told. -/
theorem Step.history_suffix {behaviour : Behaviour World} {s s' : Shared World}
    (hstep : Step behaviour s s') : s.history <:+ s'.history := by
  cases hstep with
  | host acts => exact List.suffix_rfl
  | call opened fresh => exact List.suffix_cons _ _
  | refuse waits refused => exact List.suffix_cons _ _
  | acquire waits asks vacant => exact history_proceed (s.leave _ _) _ _ _
  | exchange taken answer answers =>
      exact (List.suffix_cons _ _).trans (history_proceed (s.answered _ _ _) _ _ _)
  | giveUpWaiting waits => exact List.suffix_cons _ _
  | giveUp taken suspended => exact List.suffix_cons _ _
  | @close warden vacant unused => cases warden.drop <;> exact List.suffix_rfl
  | @closing discard world closes answer answers =>
      cases discard.receive answer <;> exact List.suffix_cons _ _

/-- What one host may do, a more liberal one may do as well. -/
theorem Step.mono {strict liberal : Behaviour World}
    (hacts : ∀ world world', strict.acts world world' → liberal.acts world world')
    (hanswers : ∀ world call answer world', strict.answers world call answer world' →
      liberal.answers world call answer world')
    {s s' : Shared World} (hstep : Step strict s s') : Step liberal s s' := by
  cases hstep with
  | host acts => exact .host (hacts _ _ acts)
  | call opened fresh => exact .call opened fresh
  | refuse waits refused => exact .refuse waits refused
  | acquire waits asks vacant => exact .acquire waits asks vacant
  | exchange taken answer answers => exact .exchange taken answer (hanswers _ _ _ _ answers)
  | giveUpWaiting waits => exact .giveUpWaiting waits
  | giveUp taken suspended => exact .giveUp taken suspended
  | close vacant unused => exact .close vacant unused
  | closing closes answer answers => exact .closing closes answer (hanswers _ _ _ _ answers)

theorem Reachable.mono {strict liberal : Behaviour World} {deployment : Deployment}
    (hbegins : strict.begins = liberal.begins)
    (hacts : ∀ world world', strict.acts world world' → liberal.acts world world')
    (hanswers : ∀ world call answer world', strict.answers world call answer world' →
      liberal.answers world call answer world')
    {s : Shared World} (h : Reachable strict deployment s) : Reachable liberal deployment s := by
  induction h with
  | begin =>
      rw [hbegins]
      exact .begin
  | step _ hstep ih => exact .step ih (hstep.mono hacts hanswers)

end Shared

/-- The handle says what the stage of whoever has the supervisor needs. -/
def Seat.Sound (deployment : Deployment) : Seat → Prop
  | .vacant warden => warden.Sound ∧ warden.deployment = deployment
  | .taken _ _ underway => underway.stage.Sound ∧ underway.deployment = deployment
  | .closing discard => discard.Sound
  | .closed => True

namespace Shared

variable {World : Type} {behaviour : Behaviour World} {deployment : Deployment}

theorem proceed_sound (s : Shared World) (caller : Caller) (operation : Operation)
    {turn : Turn Operation.Underway Operation.Result}
    (h : turn.Leads (fun next => next.stage.Sound ∧ next.deployment = deployment)
      (fun result => result.1.Sound ∧ result.1.deployment = deployment)) :
    (s.proceed caller operation turn).seat.Sound deployment := by
  cases turn <;> exact h

theorem letGo_sound (s : Shared World) {turn : Turn Discard Unit}
    (h : turn.Leads Discard.Sound (fun _ => True)) : (s.letGo turn).seat.Sound deployment := by
  cases turn <;> exact h

theorem Step.sound {s s' : Shared World} (hstep : Step behaviour s s')
    (h : s.seat.Sound deployment) : s'.seat.Sound deployment := by
  cases hstep with
  | host acts => exact h
  | call opened fresh => exact h
  | refuse waits refused => exact h
  | giveUpWaiting waits => exact h
  | acquire waits asks vacant =>
      rw [vacant] at h
      rw [Operation.start_of_task asks]
      refine proceed_sound _ _ _ ((Operation.Task.start_sound h.1 _).imp ?_ ?_)
      · exact fun next hnext => ⟨hnext.1, hnext.2.1.trans h.2⟩
      · exact fun result hresult => ⟨hresult.1, hresult.2.trans h.2⟩
  | exchange taken answer answers =>
      rw [taken] at h
      refine proceed_sound _ _ _ ((Operation.Underway.keeps_receive h.1 _).imp ?_ ?_)
      · exact fun next hnext => ⟨hnext.1, hnext.2.1.trans h.2⟩
      · exact fun result hresult => ⟨hresult.1, hresult.2.trans h.2⟩
  | giveUp taken suspended =>
      rw [taken] at h
      exact ⟨Operation.Underway.sound_interrupted h.1, h.2⟩
  | @close warden vacant unused =>
      rw [vacant] at h
      refine letGo_sound s ?_
      unfold Warden.drop
      cases hcurrent : warden.current with
      | none => exact trivial
      | some handle =>
          exact (Discard.start_sound (h.1 handle hcurrent)).imp (fun d hd => hd.1) (fun _ _ => trivial)
  | closing closes answer answers =>
      rw [closes] at h
      exact letGo_sound _ ((Discard.receive_sound h _).imp (fun d hd => hd.1) (fun _ _ => trivial))

/-- A run leads to a host and to whoever has the supervisor then. -/
def Reaches (behaviour : Behaviour World) (deployment : Deployment) (world : World) (seat : Seat) :
    Prop := ∃ s, Reachable behaviour deployment s ∧ s.world = world ∧ s.seat = seat

theorem Reaches.acts {world world' : World} {seat : Seat}
    (h : Reaches behaviour deployment world seat) (acts : behaviour.acts world world') :
    Reaches behaviour deployment world' seat := by
  obtain ⟨s, hs, rfl, rfl⟩ := h
  exact ⟨_, hs.step (.host acts), rfl, rfl⟩

/-- Whoever finds the supervisor vacant may acquire it. -/
theorem Reaches.acquire {world : World} {warden : Warden}
    (h : Reaches behaviour deployment world (.vacant warden)) (operation : Operation)
    {task : Operation.Task} (asks : operation.task = .ok task) {entries : List Log.Entry}
    {underway : Operation.Underway} (starts : operation.start warden = .goOn entries underway) :
    ∃ caller, Reaches behaviour deployment world (.taken caller operation underway) := by
  obtain ⟨s, hs, rfl, hseat⟩ := h
  obtain ⟨caller, hfresh⟩ := exists_fresh s.history
  have hcalled := hs.step (@Step.call _ _ s caller operation (Or.inl ⟨warden, hseat⟩) hfresh)
  have hacquired := hcalled.step (.acquire List.mem_cons_self asks hseat)
  rw [starts] at hacquired
  exact ⟨caller, _, hacquired, rfl, rfl⟩

theorem Reaches.exchange {world world' : World} {caller : Caller} {operation : Operation}
    {underway next : Operation.Underway}
    (h : Reaches behaviour deployment world (.taken caller operation underway))
    (answer : underway.call.Answer) (answers : behaviour.answers world underway.call answer world')
    {entries : List Log.Entry} (goesOn : underway.receive answer = .goOn entries next) :
    Reaches behaviour deployment world' (.taken caller operation next) := by
  obtain ⟨s, hs, rfl, hseat⟩ := h
  have hexchanged := hs.step (.exchange hseat answer answers)
  rw [goesOn] at hexchanged
  exact ⟨_, hexchanged, rfl, rfl⟩

theorem Reaches.finish {world world' : World} {caller : Caller} {operation : Operation}
    {underway : Operation.Underway}
    (h : Reaches behaviour deployment world (.taken caller operation underway))
    (answer : underway.call.Answer) (answers : behaviour.answers world underway.call answer world')
    {entries : List Log.Entry} {warden : Warden} {reply : Operation.Reply}
    (finishes : underway.receive answer = .finish entries (warden, reply)) :
    Reaches behaviour deployment world' (.vacant warden) := by
  obtain ⟨s, hs, rfl, hseat⟩ := h
  have hexchanged := hs.step (.exchange hseat answer answers)
  rw [finishes] at hexchanged
  exact ⟨_, hexchanged, rfl, rfl⟩

theorem Reachable.sound {s : Shared World} (h : Reachable behaviour deployment s) :
    s.seat.Sound deployment := by
  induction h with
  | begin => exact ⟨fun handle hcurrent => (by cases hcurrent), rfl⟩
  | step _ hstep ih => exact hstep.sound ih

theorem Reaches.sound {world : World} {warden : Warden}
    (h : Reaches behaviour deployment world (.vacant warden)) :
    warden.Sound ∧ warden.deployment = deployment := by
  obtain ⟨x, hx, -, hseat⟩ := h
  have hsound := hx.sound
  rw [hseat] at hsound
  exact hsound

end Shared

end ClockWarden.Supervisor
