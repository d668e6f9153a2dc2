import ClockWarden.Proofs.Host.Punctual
import ClockWarden.Proofs.Supervisor.Stopping

/-! What the exchanges of an attempt to stop a process decide. The first one reads the clock, and the
attempt breaks off there or not at all (`runs_start`). An attempt that succeeds yields how the leader ended,
which is what was known before if anything was (`clears_of_runs`), and one that is granted all that it
asks for does not fail (`not_failed_of_runs`). -/

namespace ClockWarden.Supervisor

open Host

namespace Handle

/-- An exchange tells nothing new about the leader, or that it has been reaped. -/
theorem learn_cases (h : Handle) (exchange : Exchange) :
    h.learn exchange = h ∨
      h.phase = .unreaped ∧ ∃ status, exchange.reaped? = some status ∧
        h.learn exchange = { h with phase := .reaped status } := by
  unfold learn
  cases hreaped : exchange.reaped? with
  | none => exact Or.inl rfl
  | some status =>
      cases hphase : h.phase with
      | unreaped => exact Or.inr ⟨rfl, status, rfl, reap_of_unreaped hphase status⟩
      | _ => exact Or.inl (by simp only [reap, hphase])

theorem retire_learn (h : Handle) (exchange : Exchange) (status : ExitStatus) :
    (h.learn exchange).retire status = h.retire status := by
  rcases h.learn_cases exchange with hlearn | ⟨-, known, -, hlearn⟩ <;> rw [hlearn]
  rfl

end Handle

namespace Termination

/-- The exchanges have cleared away a process: its leader has ended as is told, which was known before or
was learnt by reaping it, and at last its group was found empty or was sent a killing signal that
arrived. -/
structure Clears (handle : Handle) (exchanges : List Exchange) (status : ExitStatus) : Prop where
  ended : handle.phase = .reaped status ∨
    handle.phase = .unreaped ∧ ∃ exchange ∈ exchanges, exchange.reaped? = some status
  group : ∃ before last, exchanges = before ++ [last] ∧
    (last.FindsEmpty handle.group ∨ last.KillArrives handle.group)

theorem Clears.cons {handle : Handle} {exchange : Exchange} {exchanges : List Exchange}
    {status : ExitStatus} (h : Clears (handle.learn exchange) exchanges status) :
    Clears handle (exchange :: exchanges) status := by
  obtain ⟨hended, before, last, rfl, hgroup⟩ := h
  have hsame : (handle.learn exchange).group = handle.group := (handle.same_learn exchange).1
  rw [hsame] at hgroup
  refine ⟨?_, exchange :: before, last, rfl, hgroup⟩
  rcases handle.learn_cases exchange with hlearn | ⟨hphase, known, hreaped, hlearn⟩ <;>
    rw [hlearn] at hended
  · exact hended.imp_right fun h => ⟨h.1, h.2.imp fun _ h => ⟨List.mem_cons_of_mem _ h.1, h.2⟩⟩
  · rcases hended with hknown | ⟨hunreaped, -⟩
    · cases hknown
      exact Or.inr ⟨hphase, exchange, List.mem_cons_self, hreaped⟩
    · cases hunreaped

/-- An attempt that succeeds clears the process away, and leaves its handle retired. -/
theorem clears_of_runs {exchanges : List Exchange} {left : Handle} {status : ExitStatus} :
    ∀ {entries : List Log.Entry} {t : Termination}, t.Sound →
      machine.Runs (.goOn entries t) exchanges (left, .stopped status) →
      left = t.handle.retire status ∧ Clears t.handle exchanges status := by
  induction exchanges with
  | nil =>
      intro entries t _ hrun
      cases hrun
  | cons exchange rest ih =>
      intro entries t hsound hrun
      cases hrun with
      | @goOn _ _ answer _ _ hrun =>
          have hleads := receive_leads hsound answer
          change machine.Runs (t.receive answer) rest (left, .stopped status) at hrun
          cases hturn : t.receive answer with
          | goOn entries next =>
              rw [hturn] at hleads hrun
              obtain ⟨hnext, hhandle⟩ := hleads
              obtain ⟨hleft, hclears⟩ := ih hnext hrun
              rw [hhandle] at hleft hclears
              exact ⟨hleft.trans (t.handle.retire_learn _ status), hclears.cons⟩
          | finish entries result =>
              rw [hturn] at hleads hrun
              cases hrun
              obtain ⟨-, hphase, hleft, hgroup⟩ := hleads
              exact ⟨hleft, Or.inl hphase, [], _, rfl, hgroup⟩

/-- An attempt breaks off only where the clock is read for the deadline, and fails only where the host
refuses a signal or cannot wait. -/
theorem receive_ends (t : Termination) (answer : t.call.Answer) :
    (t.receive answer).Leads (fun next => next.stage ≠ .beginning) fun result =>
      (result.2 = .overflowed → t.stage = .beginning) ∧
        ∀ failure, result.2 = .failed failure → ¬Exchange.Granted ⟨t.call, answer⟩ := by
  obtain ⟨handle, grace, stage⟩ := t
  -- Three stages send a signal; each of them fails if it is refused.
  have hrefused {sent : Except Errno Unit} {errno : Errno} (hsent : sent = .error errno)
      (herrno : errno ≠ Errno.noSuchProcess) :
      ¬(sent = .ok () ∨ sent = .error Errno.noSuchProcess) := by
    rintro (hok | hnobody)
    · rw [hsent] at hok
      cases hok
    · rw [hsent] at hnobody
      exact herrno (Except.error.inj hnobody)
  cases stage with
  | beginning =>
      change (timed ⟨handle, grace, .beginning⟩ answer).Leads _ _
      unfold timed
      split <;> simp [goOn]
  | asking deadline =>
      change (asked ⟨handle, grace, .asking deadline⟩ deadline answer).Leads _ _
      unfold asked
      rcases handle.delivered_cases .terminate answer with ⟨hd, -⟩ | ⟨errno, hsent, herrno, hd⟩ <;>
        simp only [hd]
      · split <;> simp [goOn]
      · exact ⟨by simp, fun _ _ => hrefused hsent herrno⟩
  | awaiting deadline =>
      change (awaited ⟨handle, grace, .awaiting deadline⟩ deadline answer).Leads _ _
      rcases answer with _ | cause | status
      · simp [awaited, goOn]
      · exact ⟨by simp, fun _ _ hgranted => hgranted cause rfl⟩
      · simp [awaited, leaderEnded, goOn]
  | forcing deadline =>
      change (forced ⟨handle, grace, .forcing deadline⟩ deadline answer).Leads _ _
      unfold forced
      rcases handle.delivered_cases .kill answer with ⟨hd, -⟩ | ⟨errno, hsent, herrno, hd⟩ <;>
        simp only [hd]
      · simp [goOn]
      · exact ⟨by simp, fun _ _ => hrefused hsent herrno⟩
  | reaping deadline =>
      change (leaderEnded ⟨handle, grace, .reaping deadline⟩ deadline answer).Leads _ _
      rcases answer with cause | status
      · refine ⟨by simp, fun _ _ hgranted => ?_⟩
        obtain ⟨status, hstatus⟩ := hgranted
        cases hstatus
      · simp [leaderEnded, goOn]
  | probing deadline status =>
      change (probed ⟨handle, grace, .probing deadline status⟩ deadline status answer).Leads _ _
      rcases answer with errno | ⟨⟩ <;> simp [probed, goOn, succeed]
  | checking deadline status =>
      change (checked ⟨handle, grace, .checking deadline status⟩ deadline status answer).Leads _ _
      unfold checked
      split <;> simp [goOn]
  | resting deadline status =>
      change (goOn ⟨handle, grace, .resting deadline status⟩ (.probing deadline status)).Leads _ _
      simp [goOn]
  | clearing status =>
      change (cleared ⟨handle, grace, .clearing status⟩ status answer).Leads _ _
      unfold cleared
      rcases handle.delivered_cases .kill answer with ⟨hd, -⟩ | ⟨errno, hsent, herrno, hd⟩ <;>
        simp only [hd]
      · simp [succeed]
      · exact ⟨by simp, fun _ _ => hrefused hsent herrno⟩

theorem not_failed_of_runs {handle : Handle} {grace : Duration} {exchanges : List Exchange}
    {result : Result} (hrun : machine.Runs (start handle grace) exchanges result)
    (hgranted : ∀ exchange ∈ exchanges, exchange.Granted) (failure : Failure) :
    result.2 ≠ .failed failure := by
  have hkeeps (t : Termination) (answer : t.call.Answer) (_ : True)
      (hanswer : Exchange.Granted ⟨t.call, answer⟩) :
      (t.receive answer).Leads (fun _ => True) (fun result => result.2 ≠ .failed failure) :=
    (t.receive_ends answer).imp (fun _ _ => trivial)
      (fun _ hends hfailed => hends.2 failure hfailed hanswer)
  have hbegins : (start handle grace).Leads (fun _ => True) (fun result => result.2 ≠ .failed failure) :=
    (Turn.leads_goOn _ _).mpr trivial
  exact hrun.leads hkeeps hgranted hbegins

/-- An attempt begins by reading the clock. If the clock cannot count as far as the deadline it breaks off
with nothing done, and if it can the attempt does not break off at all. -/
theorem runs_start {handle : Handle} {grace : Duration} {exchanges : List Exchange} {result : Result}
    (h : machine.Runs (start handle grace) exchanges result) :
    ∃ (now : Instant) (rest : List Exchange), exchanges = ⟨.readClock, now⟩ :: rest ∧
      (now.after? grace = none ∧ rest = [] ∧ result = (handle, .overflowed) ∨
        (now.after? grace).isSome ∧ result.2 ≠ .overflowed) := by
  cases h with
  | @goOn _ _ now rest _ h =>
      refine ⟨now, rest, rfl, ?_⟩
      change machine.Runs (timed _ now) rest result at h
      cases hdeadline : Instant.after? now grace with
      | none =>
          simp only [timed, hdeadline] at h
          cases h
          exact Or.inl ⟨rfl, rfl, rfl⟩
      | some deadline =>
          simp only [timed, hdeadline] at h
          have hkeeps (t : Termination) (answer : t.call.Answer) (ht : t.stage ≠ .beginning)
              (_ : True) : (t.receive answer).Leads (fun next => next.stage ≠ .beginning)
                (fun result => result.2 ≠ .overflowed) :=
            (t.receive_ends answer).imp (fun _ hnext => hnext)
              (fun _ hends hbroken => ht (hends.1 hbroken))
          refine Or.inr ⟨rfl, h.leads hkeeps (fun _ _ => trivial) ?_⟩
          simp [goOn]

end Termination

end ClockWarden.Supervisor
