import ClockWarden.Proofs.Control.Demands
import ClockWarden.Proofs.Service.Serving
import ClockWarden.Proofs.Supervisor.Launches
import ClockWarden.Service.Rehearsed

/-! The way of a fake time. A client spells it in a request, a process is started under it, the client is
told that this was done, and later ones are told that this process runs under it; it is the same text all
the way, and the launches that are counted are those that clients were told to have succeeded, with those
of other callers (`fake_time_carried_through`). -/

namespace ClockWarden

open Host Supervisor Control

namespace Service.Server

variable {deployment : Deployment} {v : Server ProcessTable}

/-- A request has been answered: its call has been completed, and the response is what the reply to it
calls for. -/
structure Answers {World : Type} (v : Server World) (completion : Completion World)
    (request : Http.Request) (response : Http.Response) : Prop where
  came : (completion.caller, request) ∈ v.requests
  completed : completion ∈ completions v.supervisor.history
  responds : Run.response (Demand.ofRequest request) completion.reply = some response

namespace Answers

variable {completion : Completion ProcessTable} {request : Http.Request} {response : Http.Response}

/-- The call that has been answered is the one that the request asks for. -/
theorem operation (h : v.Answers completion request response)
    (hreachable : Reachable ProcessTable.host deployment v) :
    (Demand.ofRequest request).operation? = some completion.operation := by
  obtain ⟨operation, hasks, hcalled⟩ := hreachable.called _ h.came
  have horderly := hreachable.supervisor.attended.orderly
  rw [hasks, horderly.operation_unique hcalled (horderly.called h.completed)]

/-- A call that is answered has told the status, or has come to the end of a restart. -/
theorem cases (h : v.Answers completion request response)
    (hreachable : Reachable ProcessTable.host deployment v) :
    (∃ isHead status, Demand.ofRequest request = .status isHead ∧ completion.reply = .told status ∧
      response = statusResponse isHead status) ∨
    ∃ time result, Demand.ofRequest request = .restart time ∧
      completion.operation = .restartWith (some time.text) ∧ completion.reply = .launched result ∧
      response = restartResponse result := by
  have hoperation := h.operation hreachable
  have hresponds := h.responds
  cases hdemand : Demand.ofRequest request with
  | answered other =>
      rw [hdemand] at hoperation
      cases hoperation
  | status isHead =>
      rw [hdemand] at hresponds
      cases hreply : completion.reply with
      | told status =>
          rw [hreply] at hresponds
          cases hresponds
          exact Or.inl ⟨isHead, status, rfl, rfl, rfl⟩
      | _ =>
          rw [hreply] at hresponds
          cases hresponds
  | restart time =>
      rw [hdemand] at hoperation hresponds
      cases hreply : completion.reply with
      | launched result =>
          rw [hreply] at hresponds
          cases hresponds
          exact Or.inr ⟨time, result, rfl, (Option.some.inj hoperation).symm, rfl, rfl⟩
      | _ =>
          rw [hreply] at hresponds
          cases hresponds

/-- A restart is asked for by a request to set the fake time, and a status is not. -/
theorem asksForTime_iff (h : v.Answers completion request response)
    (hreachable : Reachable ProcessTable.host deployment v) :
    AsksForTime request ↔ ∃ result, completion.reply = .launched result := by
  rcases h.cases hreachable with ⟨isHead, status, hdemand, hreply, -⟩ |
    ⟨time, result, hdemand, -, hreply, -⟩
  · refine iff_of_false ?_ (by simp [hreply])
    intro hasks
    rw [hasks.demand] at hdemand
    exact timeDemand_ne_status isHead hdemand
  · exact iff_of_true (timeDemand_of_restart hdemand).1 ⟨result, hreply⟩

/-- A launch is confirmed to those alone who are told that they have set the fake time. -/
theorem isLaunch_iff (h : v.Answers completion request response)
    (hreachable : Reachable ProcessTable.host deployment v) :
    completion.reply.isLaunch = true ↔ AsksForTime request ∧ response.status = 200 := by
  rw [h.asksForTime_iff hreachable]
  rcases h.cases hreachable with ⟨isHead, status, -, hreply, -⟩ | ⟨time, result, -, -, hreply, rfl⟩
  · simp [hreply, Operation.Reply.isLaunch]
  · cases result with
    | ok confirmation => simp [hreply, Operation.Reply.isLaunch, restartResponse, Http.Response.json]
    | error failure =>
        have hstatus : (restartResponse (.error failure)).status ≠ 200 := status_supervisor failure
        simp [hreply, Operation.Reply.isLaunch, hstatus]

/-- A request to set the fake time that succeeded has launched a process under it. -/
theorem launched (h : v.Answers completion request response)
    (hreachable : Reachable ProcessTable.host deployment v) (hasks : AsksForTime request)
    (hstatus : response.status = 200) :
    ∃ (time : FakeTime) (pid : Pid), readBody request = .ok ⟨some time.text⟩ ∧
      completion.reply = .launched (.ok ⟨some time, pid⟩) ∧
      response.body = MessageBody.text ⟨"Fake time set to " ++ time.text⟩ := by
  obtain ⟨other, hother⟩ := (h.asksForTime_iff hreachable).mp hasks
  rcases h.cases hreachable with ⟨isHead, status, -, hreply, -⟩ |
    ⟨time, result, hdemand, hoperation, hreply, rfl⟩
  · rw [hother] at hreply
    cases hreply
  · obtain ⟨⟨fakeTime, pid⟩, rfl⟩ := ok_of_restartResponse hstatus
    have hlaunched := (hreachable.supervisor.spawnedOnce h.completed hreply).1
    rw [hoperation] at hlaunched
    obtain rfl := hlaunched.unique ⟨time, rfl, rfl⟩
    exact ⟨time, pid, readBody_of_restart (timeDemand_of_restart hdemand).2, hreply, rfl⟩

/-- A status is told to whoever asks for it. -/
theorem told (h : v.Answers completion request response) (hasks : AsksForStatus request)
    (hreachable : Reachable ProcessTable.host deployment v) :
    ∃ status, completion.reply = .told status ∧ response.body = status.text := by
  rcases h.cases hreachable with ⟨isHead, status, hdemand, hreply, rfl⟩ | ⟨time, result, hdemand, -⟩
  · rw [hasks.demand] at hdemand
    cases hdemand
    exact ⟨status, hreply, rfl⟩
  · rw [hasks.demand] at hdemand
    cases hdemand

end Answers

/-- A fake time has come from a request to the process that was started for it and to the answer, and is
told to whoever asks for the status while this process is the current one and runs. -/
structure CarriedThrough (v : Server ProcessTable) (launch : Completion ProcessTable)
    (request : Http.Request) (response : Http.Response) (time : FakeTime) (pid : Pid) : Prop where
  confirmed : launch.reply = .launched (.ok ⟨some time, pid⟩)
  asked : readBody request = .ok ⟨some time.text⟩
  spelled : ∀ text, TimeRequest.Spells text request.body → text = time.text
  spawned : ∃ environment, SpawnedOnce v.supervisor.history launch.caller pid environment ∧
    environment.get? Overlay.fakeTimeName = some (Utf8.encode time.text)
  repeated : MessageBody.read (Utf8.encode response.body) = .ok (⟨"Fake time set to " ++ time.text⟩, [])
  told : ∀ later other answer, v.Answers later other answer → AsksForStatus other →
    Current v.supervisor.history launch later → later.world.Newest pid false →
    ∃ status, Status.shape.read (Utf8.encode answer.body) = .ok (status, []) ∧
      status.running = true ∧ status.pid = some pid ∧ status.fakeTime = some time.text

theorem Answers.carriedThrough {launch : Completion ProcessTable} {request : Http.Request}
    {response : Http.Response} (h : v.Answers launch request response)
    (hreachable : Reachable ProcessTable.host deployment v) (hasks : AsksForTime request)
    (hstatus : response.status = 200) :
    ∃ time pid, v.CarriedThrough launch request response time pid := by
  obtain ⟨time, pid, hbody, hreply, hresponse⟩ := h.launched hreachable hasks hstatus
  obtain ⟨-, inherited, hspawned⟩ := hreachable.supervisor.spawnedOnce h.completed hreply
  have htime : (deployment.overlay.apply inherited (some time)).get? Overlay.fakeTimeName =
      some (Utf8.encode time.text) := by
    rw [Overlay.get?_apply]
    rfl
  refine ⟨time, pid, hreply, hbody, ?_, ⟨_, hspawned, htime⟩, ?_, ?_⟩
  · intro text hspells
    cases eq_of_spells hspells hbody
    rfl
  · rw [hresponse, MessageBody.read_text]
  · intro later other answer hlater hother hcurrent hruns
    obtain ⟨status, htold, hanswer⟩ := hlater.told hother hreachable
    refine ⟨status, ?_, hreachable.supervisor.told_of_current hcurrent hreply hruns htold⟩
    rw [hanswer, Status.read_text]

/-- A request to set the fake time that succeeds carries it through. Whatever the callers do, a supervisor
that nobody has counts the launches that were confirmed, and a status those that were confirmed before it;
each answer to a request to set the fake time that succeeds confirms one more, and no other answer does,
least of all one that is given at once. -/
theorem fake_time_carried_through (h : Reachable ProcessTable.host deployment v) :
    (∀ launch request response, v.Answers launch request response → AsksForTime request →
      response.status = 200 → ∃ time pid, v.CarriedThrough launch request response time pid) ∧
    (∀ warden, v.supervisor.seat = .vacant warden →
      warden.launches = .ofNat (launchCount (completions v.supervisor.history))) ∧
    (∀ newer completion older, completions v.supervisor.history = newer ++ completion :: older →
      ∀ request response, v.Answers completion request response →
        (AsksForStatus request →
          ∃ status, Status.shape.read (Utf8.encode response.body) = .ok (status, []) ∧
            status.launches = .ofNat (launchCount older)) ∧
        launchCount (completion :: older) =
          launchCount older + if AsksForTime request ∧ response.status = 200 then 1 else 0) ∧
    ∀ request response, Demand.ofRequest request = .answered response →
      ¬(AsksForTime request ∧ response.status = 200) ∧
        ∀ (r : Run) warden,
          r.came warden (.request request) = r.goOn (.responding warden (some response)) := by
  refine ⟨?_, fun warden hseat => h.supervisor.launches_of_vacant hseat, ?_, ?_⟩
  · exact fun launch request response hanswers hasks hstatus => hanswers.carriedThrough h hasks hstatus
  · intro newer completion older hsplit request response hanswers
    refine ⟨fun hasks => ?_, ?_⟩
    · obtain ⟨status, htold, hresponse⟩ := hanswers.told hasks h
      exact ⟨status, by rw [hresponse, Status.read_text], h.supervisor.told_launches hsplit htold⟩
    · rw [launchCount, List.countP_cons, ← launchCount]
      simp only [hanswers.isLaunch_iff h]
  · intro request response hdemand
    exact ⟨fun hset => status_ne_of_answered hset.1 hdemand hset.2, Run.came_of_answered hdemand⟩

/-! ### A run

A client sets the fake time, with an escape for its sign, and another one asks for the status. -/

namespace Sample

open Shared.Sample

def escaped : Http.Request := requestOfLine "POST /set_time \x7b\"fake_time\":\"\\u002b1d\"\x7d"

theorem spells_escaped : TimeRequest.Spells "+1d" escaped.body := by
  have hzero : Json.IsHexDigit '0' 0 := ⟨by decide, Or.inl rfl⟩
  have htwo : Json.IsHexDigit '2' 2 := ⟨by decide, Or.inl rfl⟩
  have heleven : Json.IsHexDigit 'b' 11 := ⟨by decide, Or.inl rfl⟩
  have hsign : Json.SpellsChar ['\\', 'u', '0', '0', '2', 'b'] '+' :=
    .number (.digits hzero hzero htwo heleven)
  have hvalue : Json.Spells (['\\', 'u', '0', '0', '2', 'b'] ++ ['1', 'd']) "+1d".toList :=
    .cons hsign (Json.spells_self (by simp))
  have hblanks := Json.blanks_nil
  have hspells := TimeRequest.Spells.object hblanks hblanks hblanks hblanks hblanks
    (Json.spells_literal "fake_time".toList) hvalue []
  refine (congrArg (TimeRequest.Spells "+1d") (?_ : _ = escaped.body)).mp hspells
  decide +kernel

def statusRequest : Http.Request := requestOfLine "GET /status"

/-- The first process, when it has been stopped. -/
def stopped : Family := { pid := 7, leader := .reaped (.signaled .terminate) }

def replaced : ProcessTable := ⟨[{ pid := 8 }, stopped]⟩

def launch : Completion ProcessTable :=
  ⟨1, .restartWith (some "+1d"), .launched (.ok ⟨some nextDay, 8⟩), replaced⟩

def told : Completion ProcessTable :=
  ⟨2, .tellStatus, .told ⟨true, some 8, some "+1d", some noon, 2⟩, replaced⟩

/-- The server when both requests have been answered. -/
def served (history : List (Supervisor.Event ProcessTable)) : Server ProcessTable :=
  ⟨⟨replaced, .vacant ⟨.standard, some secondHandle, 2⟩, [], history⟩,
    [(2, statusRequest), (1, escaped)]⟩

theorem demand_escaped : Demand.ofRequest escaped = .restart nextDay := by
  decide +kernel

theorem asksForStatus : AsksForStatus statusRequest := ⟨by decide +kernel, by decide +kernel⟩

theorem served_reachable : ∃ history older,
    Reachable ProcessTable.truthfulHost .standard (served history) ∧
      completions history = told :: launch :: older := by
  have hasks : (Demand.ofRequest escaped).operation? = some (.restartWith (some "+1d")) := by
    rw [demand_escaped]
    rfl
  have hasks' : (Demand.ofRequest statusRequest).operation? = some .tellStatus := by
    rw [asksForStatus.demand]
    rfl
  have h := (Sample.launched.comes 1 hasks (by simp)).acquire rfl rfl
  have h := h.exchange (⟨0⟩ : Instant) ⟨rfl, trivial⟩ rfl
  have h := h.exchange (.ok () : Except Errno Unit)
    ⟨rfl, _, List.mem_cons_self, rfl, fun h => (by cases h.2 rfl)⟩ rfl
  have hends : ProcessTable.truthfulHost.acts ⟨[{ pid := 7 }]⟩
      ⟨[{ pid := 7, leader := .ended (.signaled .terminate) }]⟩ := List.Forall₂.cons (.ends rfl) .nil
  have h := h.acts hends
  have h := h.exchange (some (.ok (.signaled .terminate)) : Option (Except Error ExitStatus))
    ⟨⟨⟨_, List.mem_cons_self, rfl, rfl⟩, rfl⟩, trivial⟩ rfl
  have hempty : ∀ f ∈ [stopped], f.pid = 7 → f.IsEmpty := by
    intro f hf _
    rw [List.mem_singleton.mp hf]
    exact ⟨rfl, fun _ => rfl⟩
  have hfresh : ∀ f ∈ [stopped], f.pid ≠ 8 := by decide
  have h := h.exchange (.error Errno.noSuchProcess : Except Errno Unit) ⟨rfl, rfl, hempty⟩ rfl
  have h := h.exchange Environment.empty ⟨rfl, trivial⟩ rfl
  have h := h.exchange (.ok 8 : Except Error Pid)
    ⟨⟨fun f hf hpid => absurd hpid (hfresh f hf), rfl⟩, fun _ hpid => (by cases hpid; exact hfresh)⟩ rfl
  have h := h.finish noon ⟨rfl, trivial⟩ rfl
  have h := (h.comes 2 hasks' (by simp)).acquire rfl rfl
  have h := h.finish (.ok none : Except Error (Option ExitStatus))
    ⟨⟨⟨_, List.mem_cons_self, rfl, rfl⟩, rfl⟩, trivial⟩ rfl
  exact ⟨_, _, h, rfl⟩

end Sample

theorem fake_time_carried_through_escaped :
    ∃ (v : Server ProcessTable) (response answer : Http.Response) (told : Status),
      Reachable ProcessTable.host .standard v ∧
      v.Answers Sample.launch Sample.escaped response ∧ AsksForTime Sample.escaped ∧
      response.status = 200 ∧ v.Answers Sample.told Sample.statusRequest answer ∧
      AsksForStatus Sample.statusRequest ∧ Current v.supervisor.history Sample.launch Sample.told ∧
      Sample.told.world.Newest 8 false ∧ TimeRequest.Spells "+1d" Sample.escaped.body ∧
      MessageBody.read (Utf8.encode response.body) = .ok (⟨"Fake time set to +1d"⟩, []) ∧
      Status.shape.read (Utf8.encode answer.body) = .ok (told, []) ∧ told.fakeTime = some "+1d" ∧
      ∀ warden, v.supervisor.seat = .vacant warden →
        warden.launches = .ofNat (launchCount (completions v.supervisor.history)) := by
  obtain ⟨history, older, hserved, hcompletions⟩ := Sample.served_reachable
  have hasks := Sample.asksForStatus
  have hset : AsksForTime Sample.escaped := by decide +kernel
  have hmem : Sample.launch ∈ completions history := by simp [hcompletions]
  have hmem' : Sample.told ∈ completions history := by simp [hcompletions]
  have hlaunch : (Sample.served history).Answers Sample.launch Sample.escaped
      (restartResponse (.ok ⟨some Shared.Sample.nextDay, 8⟩)) :=
    ⟨List.mem_cons_of_mem _ List.mem_cons_self, hmem, by rw [Sample.demand_escaped]; rfl⟩
  have htold : (Sample.served history).Answers Sample.told Sample.statusRequest
      (statusResponse false _) :=
    ⟨List.mem_cons_self, hmem', by rw [hasks.demand]; rfl⟩
  have hcurrent : Current history Sample.launch Sample.told :=
    ⟨[], [], older, hcompletions, fun _ hbetween => (by cases hbetween)⟩
  have hruns : Sample.replaced.Newest 8 false := ⟨_, _, rfl, rfl, rfl⟩
  obtain ⟨htravels, hcounted, -, -⟩ := fake_time_carried_through hserved.of_truthful
  obtain ⟨time, pid, htravelled⟩ := htravels _ _ _ hlaunch hset rfl
  cases htravelled.confirmed
  obtain ⟨status, hread, -, -, htime⟩ := htravelled.told _ _ _ htold hasks hcurrent hruns
  exact ⟨_, _, _, status, hserved.of_truthful, hlaunch, hset, rfl, htold, hasks, hcurrent, hruns,
    Sample.spells_escaped, htravelled.repeated, hread, htime, hcounted⟩

end Service.Server

end ClockWarden
