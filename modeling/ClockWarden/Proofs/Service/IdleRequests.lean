import ClockWarden.Proofs.Service.SetTime
import ClockWarden.Proofs.Supervisor.Watching

/-! Sequences of requests. Requests that ask the supervisor for nothing may be left out of a sequence, or
put into it, and nothing else changes: not the exchanges with the host, not the other answers, not what the
supervisor is left with (`Serves.filter`, `Serves.insert`). Where no fake time is set at all, nothing is
started and counted, and nobody is signalled but the group of a leader that a look at the status has found
ended (`Serves.quiet`). -/

namespace ClockWarden

open Host Supervisor

namespace Control

open Http

/-- A request that sets the fake time: its body is accepted, and the fake time in it is usable. -/
def SetsTime (request : Request) : Prop :=
  AsksForTime request ∧ ∃ time : FakeTime, readBody request = .ok ⟨some time.text⟩

/-- A request that reads the status, be it with or without its body. -/
def ReadsStatus (request : Request) : Prop :=
  (request.method = "GET" ∨ request.method = "HEAD") ∧ request.path = statusPath

/-- A request that does something, or tells something of the supervisor. -/
def Matters (request : Request) : Prop := SetsTime request ∨ ReadsStatus request

variable {request : Request}

theorem setsTime_iff : SetsTime request ↔ ∃ time, Demand.ofRequest request = .restart time := by
  constructor
  · rintro ⟨hasks, time, hbody⟩
    exact ⟨time, hasks.demand.trans (timeDemand_of_ok hbody)⟩
  · rintro ⟨time, hdemand⟩
    obtain ⟨hasks, htime⟩ := timeDemand_of_restart hdemand
    exact ⟨hasks, time, readBody_of_restart htime⟩

theorem readsStatus_iff : ReadsStatus request ↔ ∃ isHead, Demand.ofRequest request = .status isHead := by
  unfold ReadsStatus Demand.ofRequest
  simp only
  split
  · rename_i hpath
    refine iff_of_false (fun h => timePath_ne_statusPath (hpath.symm.trans h.2)) ?_
    split
    · rintro ⟨isHead, hdemand⟩
      exact timeDemand_ne_status isHead hdemand
    · simp
  · by_cases hpath : request.path = statusPath
    · by_cases hmethod : request.method = "GET" ∨ request.method = "HEAD" <;> simp [hpath, hmethod]
    · simp only [hpath, and_false, false_or, if_false, false_iff]
      split
      · split <;> simp
      · simp

/-- The requests that matter are those that call on the supervisor. -/
theorem matters_iff : Matters request ↔ (Demand.ofRequest request).operation?.isSome = true := by
  unfold Matters
  rw [setsTime_iff, readsStatus_iff]
  cases Demand.ofRequest request <;> simp [Demand.operation?]

instance (request : Request) : Decidable (Matters request) := decidable_of_iff _ matters_iff.symm

end Control

namespace Service

open Control

/-- A request that has been served, with the exchanges that it took. It has no answer if serving it broke
off. -/
structure Visit where
  request : Http.Request
  exchanges : List Exchange
  answer : Option Http.Response

def Visit.matters (v : Visit) : Bool := decide (Matters v.request)

/-- The requests are served one after another. The host goes on by itself between them and meanwhile. -/
inductive Serves {World : Type} (behaviour : Behaviour World) :
    World → Warden → List Visit → World → Warden → Prop
  | done {world later : World} {s : Warden} (becomes : behaviour.Becomes world later) :
      Serves behaviour world s [] later s
  | visit {world later last : World} {s s' s'' : Warden} {v : Visit} {visits : List Visit}
      (served : serve supervised Conduct.silent v.request s v.exchanges v.answer s')
      (admits : behaviour.Admits world v.exchanges later)
      (rest : Serves behaviour later s' visits last s'') :
      Serves behaviour world s (v :: visits) last s''

/-- What a visit does to the process that is managed: nothing but to look at its leader, and to kill its
group if the leader has ended, which the look has told or was known before. -/
def Visit.Watches (v : Visit) (s : Warden) : Prop :=
  ∀ exchange ∈ v.exchanges, ∃ handle, s.current = some handle ∧
    ((∃ found, exchange = ⟨.pollExit handle.pid, found⟩) ∨
      ∃ status answer, exchange = ⟨.signalGroup handle.group .kill, answer⟩ ∧
        (handle.phase = .reaped status ∨
          ⟨.pollExit handle.pid, (.ok (some status) : Except Error (Option ExitStatus))⟩ ∈
            v.exchanges))

namespace Serves

variable {World : Type} {behaviour : Behaviour World} {world later last : World} {s s' : Warden}
  {visits : List Visit} {v : Visit}

theorem of_becomes (becomes : behaviour.Becomes world later)
    (h : Serves behaviour later s visits last s') : Serves behaviour world s visits last s' := by
  cases h with
  | done hlater => exact .done (becomes.trans hlater)
  | visit served admits rest => exact .visit served (admits.of_becomes becomes) rest

/-- A request that does nothing can be answered at any time. -/
theorem idle {request : Http.Request} (hidle : ¬Matters request)
    (h : Serves behaviour world s visits last s') :
    ∃ answer, Serves behaviour world s (⟨request, [], answer⟩ :: visits) last s' := by
  cases hdemand : Demand.ofRequest request with
  | answered response =>
      exact ⟨some response, .visit ((serve_of_answered hdemand).mpr ⟨rfl, rfl, rfl⟩) (.nil .refl) h⟩
  | _ => exact absurd (matters_iff.mpr (by rw [hdemand]; rfl)) hidle

/-- A request that does nothing has made no exchange, and leaves the supervisor as it found it. -/
theorem of_idle (hidle : ¬Matters v.request)
    (h : Serves behaviour world s (v :: visits) last s') :
    v.exchanges = [] ∧ Serves behaviour world s visits last s' := by
  cases h with
  | visit served admits rest =>
      cases hdemand : Demand.ofRequest v.request with
      | answered response =>
          obtain ⟨hexchanges, -, rfl⟩ := (serve_of_answered hdemand).mp served
          rw [hexchanges] at admits
          cases admits with
          | nil becomes => exact ⟨hexchanges, rest.of_becomes becomes⟩
      | _ => exact absurd (matters_iff.mpr (by rw [hdemand]; rfl)) hidle

theorem filter (h : Serves behaviour world s visits last s') :
    Serves behaviour world s (visits.filter Visit.matters) last s' ∧
      (visits.filter Visit.matters).flatMap Visit.exchanges = visits.flatMap Visit.exchanges := by
  induction visits generalizing world s with
  | nil => exact ⟨h, rfl⟩
  | cons v visits ih =>
      by_cases hmatters : Matters v.request
      · rw [List.filter_cons_of_pos (by simpa [Visit.matters] using hmatters)]
        cases h with
        | visit served admits rest =>
            obtain ⟨hkept, hexchanges⟩ := ih rest
            refine ⟨.visit served admits hkept, ?_⟩
            rw [List.flatMap_cons, List.flatMap_cons, hexchanges]
      · rw [List.filter_cons_of_neg (by simpa [Visit.matters] using hmatters)]
        obtain ⟨hnone, hrest⟩ := h.of_idle hmatters
        obtain ⟨hkept, hexchanges⟩ := ih hrest
        refine ⟨hkept, ?_⟩
        rw [List.flatMap_cons, hnone, List.nil_append, hexchanges]

/-- Requests that do nothing may be put in anywhere. -/
theorem insert {requests : List Http.Request}
    (hrequests : requests.filter (fun r => decide (Matters r)) = visits.map Visit.request)
    (h : Serves behaviour world s visits last s') :
    ∃ others : List Visit, others.map Visit.request = requests ∧
      others.filter Visit.matters = visits ∧ Serves behaviour world s others last s' := by
  induction requests generalizing visits world s with
  | nil =>
      obtain rfl : visits = [] := List.map_eq_nil_iff.mp hrequests.symm
      exact ⟨[], rfl, rfl, h⟩
  | cons request requests ih =>
      by_cases hmatters : Matters request
      · rw [List.filter_cons_of_pos (by simpa using hmatters)] at hrequests
        cases h with
        | done becomes => cases hrequests
        | @visit _ _ _ _ _ _ v visits served admits rest =>
            obtain ⟨hrequest, hrest⟩ := List.cons.inj hrequests
            obtain ⟨others, rfl, rfl, hothers⟩ := ih hrest rest
            refine ⟨v :: others, by rw [hrequest]; rfl, ?_, .visit served admits hothers⟩
            exact List.filter_cons_of_pos (by simpa [Visit.matters, ← hrequest] using hmatters)
      · rw [List.filter_cons_of_neg (by simpa using hmatters)] at hrequests
        obtain ⟨others, rfl, rfl, hothers⟩ := ih hrequests h
        obtain ⟨answer, hserves⟩ := hothers.idle hmatters
        refine ⟨_, rfl, ?_, hserves⟩
        exact List.filter_cons_of_neg (by simpa [Visit.matters] using hmatters)

end Serves

namespace Visit

theorem Watches.of_current {v : Visit} {s s' : Warden}
    (hcurrent : s'.current = s.current ∨ s'.current = none) (h : v.Watches s') : v.Watches s := by
  intro exchange hmem
  obtain ⟨handle, hmanaged, hwatched⟩ := h exchange hmem
  rcases hcurrent with hsame | hnone
  · exact ⟨handle, hsame ▸ hmanaged, hwatched⟩
  · rw [hnone] at hmanaged
    cases hmanaged

theorem watches_of_inspects {v : Visit} {s s' : Warden} (h : s.Inspects v.exchanges s') :
    v.Watches s := by
  obtain ⟨request, exchanges, answer⟩ := v
  intro exchange hmem
  cases h with
  | idle empty => cases hmem
  | runs managed =>
      obtain rfl := List.mem_singleton.mp hmem
      exact ⟨_, managed, Or.inl ⟨_, rfl⟩⟩
  | ended managed status answer =>
      rcases List.mem_cons.mp hmem with rfl | hmem
      · exact ⟨_, managed, Or.inl ⟨_, rfl⟩⟩
      · obtain rfl := List.mem_singleton.mp hmem
        exact ⟨_, managed, Or.inr ⟨status, answer, rfl, Or.inr List.mem_cons_self⟩⟩
  | known managed reaped answer =>
      obtain rfl := List.mem_singleton.mp hmem
      exact ⟨_, managed, Or.inr ⟨_, answer, rfl, Or.inl reaped⟩⟩

end Visit

/-- A request that does not set the fake time leaves the process as it is or none at all, whatever else it
asks for. -/
theorem Visit.quiet {deployment : Deployment} {world later : ProcessTable} {s s' : Warden} {v : Visit}
    (hreaches : Shared.Reaches ProcessTable.host deployment world (.vacant s))
    (served : serve supervised Conduct.silent v.request s v.exchanges v.answer s')
    (admits : ProcessTable.host.Admits world v.exchanges later) (hquiet : ¬SetsTime v.request) :
    Shared.Reaches ProcessTable.host deployment later (.vacant s') ∧
      ((s'.current = s.current ∨ s'.current = none) ∧ s'.launches = s.launches) ∧
      v.Watches s ∧ (v.exchanges ≠ [] → ReadsStatus v.request) := by
  cases hdemand : Demand.ofRequest v.request with
  | answered response =>
      obtain ⟨hexchanges, -, rfl⟩ := (serve_of_answered hdemand).mp served
      rw [hexchanges] at admits
      cases admits with
      | nil becomes =>
          refine ⟨hreaches.becomes becomes, ⟨Or.inl rfl, rfl⟩, ?_, fun h => absurd hexchanges h⟩
          intro exchange hmem
          rw [hexchanges] at hmem
          cases hmem
  | restart time => exact absurd (setsTime_iff.mpr ⟨time, hdemand⟩) hquiet
  | status isHead =>
      have hoperation : (Demand.ofRequest v.request).operation? = some .tellStatus := by
        rw [hdemand]
        rfl
      obtain ⟨reply, hrun, -⟩ := (serve_of_operation hoperation).mp served
      obtain ⟨hlater, hpolls⟩ := hreaches.carries rfl hrun admits
      have hinspects := Warden.inspects_of_runs hreaches.sound.1 hrun hpolls
      exact ⟨hlater, hinspects.current, watches_of_inspects hinspects,
        fun _ => readsStatus_iff.mpr ⟨isHead, hdemand⟩⟩

/-- Where no fake time is set, all that is done is to watch the process that is there. -/
theorem Serves.quiet {deployment : Deployment} {world last : ProcessTable} {s s' : Warden}
    {visits : List Visit} (hreaches : Shared.Reaches ProcessTable.host deployment world (.vacant s))
    (h : Serves ProcessTable.host world s visits last s')
    (hquiet : ∀ v ∈ visits, ¬SetsTime v.request) :
    (s'.current = s.current ∨ s'.current = none) ∧ s'.launches = s.launches ∧
      ∀ v ∈ visits, v.Watches s ∧ (v.exchanges ≠ [] → ReadsStatus v.request) := by
  induction h with
  | done becomes => exact ⟨Or.inl rfl, rfl, fun v hmem => (by cases hmem)⟩
  | @visit world later last s between s' v visits served admits rest ih =>
      obtain ⟨hsets, hrest⟩ := List.forall_mem_cons.mp hquiet
      obtain ⟨hlater, ⟨hcurrent, hlaunches⟩, hwatches⟩ := Visit.quiet hreaches served admits hsets
      obtain ⟨hcurrent', hlaunches', hall⟩ := ih hlater hrest
      refine ⟨?_, hlaunches'.trans hlaunches, List.forall_mem_cons.mpr ⟨hwatches, ?_⟩⟩
      · rcases hcurrent' with hsame | hnone
        · rw [hsame]
          exact hcurrent
        · exact Or.inr hnone
      · exact fun v hmem => ⟨(hall v hmem).1.of_current hcurrent, (hall v hmem).2⟩

/-- Two sequences of requests that differ only in requests that do nothing lead to the same: whatever may
come of one may come of the other, with the same exchanges, the same answers to all other requests, and the
same supervisor in the end. Where no fake time is set, nothing is started or counted, and the process that
is managed is watched and nothing else. -/
theorem idle_requests_change_nothing {deployment : Deployment} {x : Shared ProcessTable}
    (hx : Shared.Reachable ProcessTable.host deployment x) {s : Warden} (hseat : x.seat = .vacant s)
    {visits : List Visit} {last : ProcessTable} {s' : Warden}
    (h : Serves ProcessTable.host x.world s visits last s') :
    (∀ requests : List Http.Request,
      requests.filter (fun r => decide (Matters r)) =
        (visits.map Visit.request).filter (fun r => decide (Matters r)) →
      ∃ others : List Visit, others.map Visit.request = requests ∧
        others.filter Visit.matters = visits.filter Visit.matters ∧
        others.flatMap Visit.exchanges = visits.flatMap Visit.exchanges ∧
        Serves ProcessTable.host x.world s others last s') ∧
    ((∀ v ∈ visits, ¬SetsTime v.request) →
      (s'.current = s.current ∨ s'.current = none) ∧ s'.launches = s.launches ∧
        ∀ v ∈ visits, v.Watches s ∧ (v.exchanges ≠ [] → ReadsStatus v.request)) := by
  refine ⟨fun requests hrequests => ?_, fun hquiet => h.quiet ⟨x, hx, rfl, hseat⟩ hquiet⟩
  obtain ⟨hkept, hexchanges⟩ := h.filter
  have hmap : (visits.map Visit.request).filter (fun r => decide (Matters r)) =
      (visits.filter Visit.matters).map Visit.request := List.filter_map
  obtain ⟨others, hothers, hfilter, hserves⟩ := hkept.insert (hrequests.trans hmap)
  refine ⟨others, hothers, hfilter, ?_, hserves⟩
  rw [← hserves.filter.2, hfilter, hexchanges]

/-! ### A sequence

The leader of the first process ends. A request without a fake time changes nothing about that, and the
next look at the status finds it. -/

namespace Sample

open Shared.Sample

def statusRequest : Http.Request := requestOfLine "GET /status"

def found : Visit where
  request := statusRequest
  exchanges :=
    [⟨.pollExit 7, (.ok (some (.exited 0)) : Except Error (Option ExitStatus))⟩,
      ⟨.signalGroup 7 .kill, (.ok () : Except Errno Unit)⟩]
  answer := some (statusResponse false (Operation.statusOf none 1))

theorem demand_statusRequest : Demand.ofRequest statusRequest = .status false := by
  decide +kernel

theorem serves_found :
    Serves ProcessTable.host ⟨[{ pid := 7 }]⟩ ⟨.standard, some firstHandle, 1⟩ [found]
      ⟨[{ pid := 7, leader := .reaped (.exited 0) }]⟩ ⟨.standard, none, 1⟩ := by
  have hoperation : (Demand.ofRequest statusRequest).operation? = some .tellStatus := by
    rw [demand_statusRequest]
    rfl
  have hends : ProcessTable.host.acts ⟨[{ pid := 7 }]⟩ ⟨[{ pid := 7, leader := .ended (.exited 0) }]⟩ :=
    List.Forall₂.cons (.ends rfl) .nil
  refine .visit ((serve_of_operation hoperation).mpr ⟨_, .goOn (.goOn .finish), ?_⟩) ?_ (.done .refl)
  · rw [demand_statusRequest]
    rfl
  · refine .cons (.single hends) ⟨⟨_, List.mem_cons_self, rfl, rfl⟩, rfl⟩ ?_
    exact .cons .refl rfl (.nil .refl)

end Sample

theorem idle_requests_change_nothing_found :
    ∃ (x : Shared ProcessTable) (s : Warden) (others : List Visit) (last : ProcessTable) (s' : Warden),
      Shared.Reachable ProcessTable.host .standard x ∧ x.seat = .vacant s ∧
      others.map Visit.request = [Sample.lacking, Sample.statusRequest] ∧
      others.flatMap Visit.exchanges = Sample.found.exchanges ∧
      Serves ProcessTable.host x.world s others last s' ∧ s'.launches = s.launches ∧
      Sample.found.Watches s := by
  obtain ⟨x, hx, hworld, hseat⟩ := Shared.Sample.launched_reaches
  have hserves := Sample.serves_found
  rw [← hworld] at hserves
  obtain ⟨hsame, hquiet⟩ := idle_requests_change_nothing hx.of_truthful hseat hserves
  have hfilter : [Sample.lacking, Sample.statusRequest].filter (fun r => decide (Matters r)) =
      ([Sample.found].map Visit.request).filter (fun r => decide (Matters r)) := by
    decide +kernel
  obtain ⟨others, hrequests, -, hexchanges, hothers⟩ := hsame _ hfilter
  have hsets : ∀ v ∈ [Sample.found], ¬SetsTime v.request := by
    intro v hmem
    rw [List.mem_singleton.mp hmem, setsTime_iff]
    rintro ⟨time, hdemand⟩
    rw [show Demand.ofRequest Sample.found.request = _ from Sample.demand_statusRequest] at hdemand
    cases hdemand
  obtain ⟨-, hlaunches, hwatches⟩ := hquiet hsets
  refine ⟨x, _, others, _, _, hx.of_truthful, hseat, hrequests, ?_, hothers, hlaunches, ?_⟩
  · rw [hexchanges]
    rfl
  · exact (hwatches _ List.mem_cons_self).1

end Service

end ClockWarden
