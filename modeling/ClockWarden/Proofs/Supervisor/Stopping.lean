import ClockWarden.Proofs.Supervisor.Running
import ClockWarden.Supervisor.Termination

/-! What an attempt to stop a process preserves. At every stage the handle says as much about the
leader as the answers so far do (`Termination.Sound`), and it is marked as retired only by an attempt
that succeeds: after the leader was reaped, and after the group was found empty or killed. -/

namespace ClockWarden.Supervisor

open Host

namespace Handle

/-- Handles of the same process, which may be gone to different degrees. -/
def Same (h g : Handle) : Prop :=
  h.pid = g.pid ∧ h.environment = g.environment ∧ h.fakeTime = g.fakeTime ∧
    h.startedAt = g.startedAt

theorem Same.refl (h : Handle) : h.Same h := ⟨rfl, rfl, rfl, rfl⟩

theorem Same.trans {h g k : Handle} (hg : h.Same g) (hk : g.Same k) : h.Same k :=
  ⟨hg.1.trans hk.1, hg.2.1.trans hk.2.1, hg.2.2.1.trans hk.2.2.1, hg.2.2.2.trans hk.2.2.2⟩

theorem same_reap (h : Handle) (status : ExitStatus) : (h.reap status).Same h := by
  unfold reap
  split <;> exact Same.refl h

/-- What a handle says after an exchange of whoever holds it. -/
def learn (h : Handle) (exchange : Exchange) : Handle :=
  match exchange.reaped? with
  | some status => h.reap status
  | none => h

theorem same_learn (h : Handle) (exchange : Exchange) : (h.learn exchange).Same h := by
  unfold learn
  split
  · exact same_reap h _
  · exact Same.refl h

theorem reap_of_unreaped {h : Handle} (hphase : h.phase = .unreaped) (status : ExitStatus) :
    h.reap status = { h with phase := .reaped status } := by
  simp only [reap, hphase]

theorem delivered_cases (h : Handle) (signal : Signal) (sent : Except Errno Unit) :
    (h.delivered signal sent = .ok () ∧ (sent = .ok () ∨ sent = .error Errno.noSuchProcess)) ∨
      ∃ errno, sent = .error errno ∧ errno ≠ Errno.noSuchProcess ∧
        h.delivered signal sent = .error (h.undelivered signal errno) := by
  rcases sent with errno | ⟨⟩
  · by_cases herrno : errno = Errno.noSuchProcess
    · exact Or.inl ⟨by simp [delivered, herrno], Or.inr (by rw [herrno])⟩
    · exact Or.inr ⟨errno, rfl, herrno, by simp [delivered, herrno]⟩
  · exact Or.inl ⟨rfl, Or.inl rfl⟩

end Handle

/-- A failure of an attempt to stop a process. -/
def Failure.IsStopping : Failure → Prop
  | .termination _ _ => True
  | .host _ => True
  | _ => False

namespace Termination

/-- At each stage the handle says what is known about the leader. -/
def Sound (t : Termination) : Prop :=
  match t.stage with
  | .beginning | .asking _ => t.handle.phase.isRetired = false
  | .awaiting _ | .forcing _ | .reaping _ => t.handle.phase = .unreaped
  | .probing _ status | .checking _ status | .resting _ status | .clearing status =>
    t.handle.phase = .reaped status

theorem Sound.not_retired {t : Termination} (h : t.Sound) : t.handle.phase.isRetired = false := by
  obtain ⟨handle, grace, stage⟩ := t
  cases stage <;> first | exact h | exact congrArg Phase.isRetired h

/-- How the last exchange of an attempt and what is known before it decide what the attempt leaves. -/
def Ends (t : Termination) (exchange : Exchange) (result : Result) : Prop :=
  exchange.reaped? = none ∧
  match result.2 with
  | .stopped status =>
    t.handle.phase = .reaped status ∧ result.1 = t.handle.retire status ∧
      (exchange.FindsEmpty t.handle.group ∨ exchange.KillArrives t.handle.group)
  | .failed failure => result.1 = t.handle ∧ failure.IsStopping
  | .overflowed => result.1 = t.handle

theorem receive_leads {t : Termination} (h : t.Sound) (answer : t.call.Answer) :
    (t.receive answer).Leads
      (fun next => next.Sound ∧ next.handle = t.handle.learn ⟨t.call, answer⟩)
      (t.Ends ⟨t.call, answer⟩) := by
  obtain ⟨handle, grace, stage⟩ := t
  cases stage with
  | beginning =>
      change (timed ⟨handle, grace, .beginning⟩ answer).Leads _ _
      unfold timed
      split
      · exact ⟨rfl, rfl⟩
      · exact ⟨h, rfl⟩
  | asking deadline =>
      change (asked ⟨handle, grace, .asking deadline⟩ deadline answer).Leads _ _
      unfold asked
      rcases handle.delivered_cases .terminate answer with ⟨hd, -⟩ | ⟨errno, -, -, hd⟩ <;> simp only [hd]
      · cases hphase : handle.phase with
        | unreaped => exact ⟨hphase, rfl⟩
        | reaped status => exact ⟨hphase, rfl⟩
        | retired status =>
            have hretired : handle.phase.isRetired = false := h
            rw [hphase] at hretired
            cases hretired
      · exact ⟨rfl, rfl, trivial⟩
  | awaiting deadline =>
      change (awaited ⟨handle, grace, .awaiting deadline⟩ deadline answer).Leads _ _
      rcases answer with _ | cause | status
      · exact ⟨h, rfl⟩
      · exact ⟨rfl, rfl, trivial⟩
      · exact ⟨congrArg Handle.phase (Handle.reap_of_unreaped h status), rfl⟩
  | forcing deadline =>
      change (forced ⟨handle, grace, .forcing deadline⟩ deadline answer).Leads _ _
      unfold forced
      rcases handle.delivered_cases .kill answer with ⟨hd, -⟩ | ⟨errno, -, -, hd⟩ <;> simp only [hd]
      · exact ⟨h, rfl⟩
      · exact ⟨rfl, rfl, trivial⟩
  | reaping deadline =>
      change (leaderEnded ⟨handle, grace, .reaping deadline⟩ deadline answer).Leads _ _
      rcases answer with cause | status
      · exact ⟨rfl, rfl, trivial⟩
      · exact ⟨congrArg Handle.phase (Handle.reap_of_unreaped h status), rfl⟩
  | probing deadline status =>
      change (probed ⟨handle, grace, .probing deadline status⟩ deadline status answer).Leads _ _
      rcases answer with errno | ⟨⟩
      · exact ⟨rfl, h, rfl, Or.inl ⟨errno, rfl⟩⟩
      · exact ⟨h, rfl⟩
  | checking deadline status =>
      change (checked ⟨handle, grace, .checking deadline status⟩ deadline status answer).Leads _ _
      unfold checked
      split
      · exact ⟨h, rfl⟩
      · exact ⟨h, rfl⟩
  | resting deadline status => exact ⟨h, rfl⟩
  | clearing status =>
      change (cleared ⟨handle, grace, .clearing status⟩ status answer).Leads _ _
      unfold cleared
      rcases handle.delivered_cases .kill answer with ⟨hd, hsent⟩ | ⟨errno, -, -, hd⟩ <;> simp only [hd]
      · exact ⟨rfl, h, rfl, Or.inr ⟨answer, rfl, hsent⟩⟩
      · exact ⟨rfl, rfl, trivial⟩

/-- An attempt to stop a process asks for no process. -/
theorem call_not_spawn (t : Termination) : ¬t.call.IsSpawn := by
  obtain ⟨handle, grace, stage⟩ := t
  rintro ⟨command, h⟩
  cases stage <;> cases h

/-- What an attempt leaves, whatever the host answers: the same process, marked as retired if and only
if the attempt succeeds. -/
def Leaves (handle : Handle) (result : Result) : Prop :=
  result.1.Same handle ∧
    match result.2 with
    | .stopped status => result.1.phase = .retired status
    | .failed failure => result.1.phase.isRetired = false ∧ failure.IsStopping
    | .overflowed => result.1.phase.isRetired = false

theorem Ends.leaves {t : Termination} (hsound : t.Sound) {exchange : Exchange} {result : Result}
    (h : t.Ends exchange result) : Leaves t.handle result := by
  obtain ⟨handle, outcome⟩ := result
  cases outcome with
  | stopped status =>
      obtain ⟨-, -, hretire, -⟩ := h
      rw [show handle = _ from hretire]
      exact ⟨Handle.Same.refl t.handle, rfl⟩
  | failed failure =>
      obtain ⟨-, hhandle, hfailure⟩ := h
      rw [show handle = _ from hhandle]
      exact ⟨Handle.Same.refl t.handle, hsound.not_retired, hfailure⟩
  | overflowed =>
      rw [show handle = _ from h.2]
      exact ⟨Handle.Same.refl t.handle, hsound.not_retired⟩

theorem Leaves.of_same {h g : Handle} (hsame : h.Same g) {result : Result} (hleaves : Leaves h result) :
    Leaves g result := ⟨hleaves.1.trans hsame, hleaves.2⟩

theorem start_leads {handle : Handle} (h : handle.phase.isRetired = false) (grace : Duration) :
    (start handle grace).Leads (fun t => t.Sound ∧ t.handle.Same handle) (Leaves handle) :=
  ⟨h, Handle.Same.refl handle⟩

/-- Every run of an attempt leaves the process as its outcome says, and starts nothing. -/
theorem leaves_of_runs {turn : Turn Termination Result} {exchanges : List Exchange} {result : Result}
    (hrun : machine.Runs turn exchanges result) {handle : Handle}
    (hturn : turn.Leads (fun t => t.Sound ∧ t.handle.Same handle) (Leaves handle)) :
    Leaves handle result ∧ ∀ exchange ∈ exchanges, ¬exchange.call.IsSpawn := by
  induction hrun with
  | finish => exact ⟨hturn, by simp⟩
  | @goOn entries t answer exchanges result hrun ih =>
      obtain ⟨hsound, hsame⟩ := hturn
      have hnext : (t.receive answer).Leads (fun next => next.Sound ∧ next.handle.Same handle)
          (Leaves handle) := by
        refine (receive_leads hsound answer).imp ?_ ?_
        · rintro next ⟨hnext, hhandle⟩
          rw [hhandle]
          exact ⟨hnext, (t.handle.same_learn _).trans hsame⟩
        · intro result hends
          exact (hends.leaves hsound).of_same hsame
      obtain ⟨hleaves, hspawn⟩ := ih hnext
      refine ⟨hleaves, ?_⟩
      intro exchange hmem
      rcases List.mem_cons.mp hmem with rfl | hmem
      · exact t.call_not_spawn
      · exact hspawn exchange hmem

end Termination

end ClockWarden.Supervisor
