import ClockWarden.Proofs.Supervisor.Escalation
import ClockWarden.Proofs.Supervisor.Retiring
import ClockWarden.Proofs.Supervisor.Stages

/-! What becomes of a group when the host refuses to have it signalled or looked at. A signal that is
refused ends the attempt to stop the process as a failure, and the group is still acted on: the handle is
not retired, so letting go of it kills the group, and another attempt asks the group to end again
(`StillActs`). A look that is refused, for whatever reason, passes for a group that is empty: the attempt
succeeds, the handle is retired, and letting go of it does nothing (`refusals_decide`). -/

namespace ClockWarden.Supervisor

open Host

namespace Discard

theorem kills_of_killing {group : Pid} {turn : Turn Discard Unit} {exchanges : List Exchange}
    (hturn : turn.Leads (fun d => d.stage = .killing ∧ d.handle.group = group) (fun _ => False))
    (h : machine.Runs turn exchanges ()) : ∃ exchange ∈ exchanges, exchange.Kills group := by
  cases h with
  | finish => exact hturn.elim
  | @goOn entries d answer exchanges _ hrun =>
      obtain ⟨handle, stage⟩ := d
      obtain ⟨rfl, rfl⟩ := hturn
      exact ⟨_, List.mem_cons_self, answer, rfl⟩

/-- Whoever lets go of a process that is not retired kills its group. -/
theorem kills_of_runs {handle : Handle} (hretired : handle.phase.isRetired = false)
    {exchanges : List Exchange} (h : machine.Runs (start handle) exchanges ()) :
    ∃ exchange ∈ exchanges, exchange.Kills handle.group := by
  unfold start at h
  rcases handle.phase_cases hretired with hphase | ⟨status, hphase⟩ <;> rw [hphase] at h
  · cases h with
    | @goOn _ _ found rest _ hrun =>
        have hnext : (polled handle found).Leads
            (fun d => d.stage = .killing ∧ d.handle.group = handle.group) (fun _ => False) := by
          rcases found with cause | _ | status
          · exact ⟨rfl, rfl⟩
          · exact ⟨rfl, rfl⟩
          · exact ⟨rfl, (handle.same_reap status).1⟩
        obtain ⟨exchange, hmem, hkills⟩ := kills_of_killing hnext hrun
        exact ⟨exchange, List.mem_cons_of_mem _ hmem, hkills⟩
  · exact kills_of_killing ((Turn.leads_goOn _ _).mpr ⟨rfl, rfl⟩) h

end Discard

namespace Termination

/-- The group is still acted on: it is killed when the handle is let go of, and it is asked to end by another
attempt to stop the process. -/
structure StillActs (handle left : Handle) : Prop where
  notRetired : left.phase.isRetired = false
  drops {exchanges : List Exchange} : Discard.machine.Runs (Discard.start left) exchanges () →
    ∃ exchange ∈ exchanges, exchange.Kills handle.group
  retries {grace : Duration} {now : Instant} {exchange : Exchange} {exchanges : List Exchange}
    {turn : Turn Termination Result} :
    machine.Path (start left grace) (reads now :: exchange :: exchanges) turn →
      exchange.call = .signalGroup handle.group .terminate

theorem stillActs {handle left : Handle} (hsame : left.Same handle)
    (hretired : left.phase.isRetired = false) : StillActs handle left where
  notRetired := hretired
  drops hrun := by
    rw [show handle.group = left.group from hsame.1.symm]
    exact Discard.kills_of_runs hretired hrun
  retries {grace now exchange exchanges turn} hpath := by
    rw [show handle.group = left.group from hsame.1.symm]
    cases hdeadline : now.after? grace with
    | none =>
        obtain ⟨shown, hreads, hrest⟩ := path_start hpath
        cases hreads
        simp only [timed, hdeadline] at hrest
        obtain ⟨entries, t, answer, hfirst, -⟩ := hrest.of_cons
        cases hfirst
    | some deadline =>
        exact ((follows_of_path hdeadline hpath).2 [] exchange exchanges rfl).asks.mpr rfl

/-- A signal to the group that comes back with an error. -/
def signalFails (handle : Handle) (signal : Signal) (errno : Errno) : Exchange :=
  ⟨.signalGroup handle.group signal, (.error errno : Except Errno Unit)⟩

/-- A look at the group that comes back with an error. -/
def lookFails (handle : Handle) (errno : Errno) : Exchange :=
  ⟨.probeGroup handle.group, (.error errno : Except Errno Unit)⟩

/-- The last exchange shows that nothing is left of the group: it finds nobody, or it is a killing signal
that is let through after the group has outlived the deadline. -/
def Settles (handle : Handle) (grace : Duration) (now : Instant) (before : List Exchange)
    (last : Exchange) : Prop :=
  last = lookFails handle Errno.noSuchProcess ∨ last = signalFails handle .kill Errno.noSuchProcess ∨
    last = ⟨.signalGroup handle.group .kill, (.ok () : Except Errno Unit)⟩ ∧
      ∃ deadline, now.after? grace = some deadline ∧ GroupOutlives handle deadline before

/-- Nothing follows a call that fails, or a look that finds the group empty. -/
theorem last_of_inOrder {handle : Handle} {deadline : Instant} {exchanges : List Exchange}
    (h : Preceded (InOrder handle deadline) exchanges) {exchange : Exchange} (hmem : exchange ∈ exchanges)
    (hends : failure? handle exchange ≠ none ∨ exchange.FindsEmpty handle.group) :
    ∃ before, exchanges = before ++ [exchange] := by
  obtain ⟨before, after, hsplit⟩ := List.append_of_mem hmem
  cases after with
  | nil => exact ⟨before, hsplit⟩
  | cons next after =>
      have hnext := h (before ++ [exchange]) next after (by rw [hsplit, List.append_assoc]; rfl)
      obtain ⟨hfailure, hempty⟩ := hnext.goesOn exchange (by simp)
      exact (hends.elim (fun hfails => hfails hfailure) hempty).elim

section Conclusions

variable {handle : Handle} {grace : Duration} {now deadline : Instant} {exchanges : List Exchange}
  {result : Result}

/-- The last exchange of an attempt that has ended, and what it has made of the attempt. -/
theorem Concluded.of_last (h : Concluded handle deadline exchanges result) {before : List Exchange}
    {last : Exchange} (hsplit : exchanges = before ++ [last]) :
    match result.2 with
    | .stopped status =>
      result.1 = handle.retire status ∧ Known handle status before ∧
        (last.FindsEmpty handle.group ∨
          last.KillArrives handle.group ∧ GroupOutlives handle deadline before)
    | .failed failure =>
      failure? handle last = some failure ∧ result.1.Same handle ∧
        result.1.phase.isRetired = handle.phase.isRetired
    | .overflowed => False := by
  obtain ⟨before', last', hsplit', hresult⟩ := h
  obtain ⟨rfl, hlast⟩ := List.append_inj' (hsplit'.symm.trans hsplit) rfl
  cases hlast
  exact hresult

theorem signal_ends (hconcluded : Concluded handle deadline exchanges result)
    (horder : Preceded (InOrder handle deadline) exchanges) (hretired : handle.phase.isRetired = false)
    {signal : Signal} {errno : Errno} (hmem : signalFails handle signal errno ∈ exchanges)
    (herrno : errno ≠ Errno.noSuchProcess) :
    (∃ before, exchanges = before ++ [signalFails handle signal errno]) ∧
      result.2 = .failed (handle.undelivered signal errno) ∧ StillActs handle result.1 := by
  have hfails : failure? handle (signalFails handle signal errno) =
      some (handle.undelivered signal errno) := if_neg herrno
  obtain ⟨before, hsplit⟩ := last_of_inOrder horder hmem (Or.inl (by simp [hfails]))
  have hlast := hconcluded.of_last hsplit
  obtain ⟨left, outcome⟩ := result
  cases outcome with
  | stopped status =>
      rcases hlast.2.2 with ⟨other, hempty⟩ | ⟨⟨sent, harrives, hsent⟩, -⟩
      · cases hempty
      · cases harrives
        rcases hsent with hsent | hsent <;> cases hsent
        exact absurd rfl herrno
  | failed failure =>
      obtain ⟨hfailure, hsame, hleft⟩ := hlast
      rw [hfails] at hfailure
      cases hfailure
      exact ⟨⟨before, hsplit⟩, rfl, stillActs hsame (hleft.trans hretired)⟩
  | overflowed => exact hlast.elim

theorem look_ends (hconcluded : Concluded handle deadline exchanges result)
    (horder : Preceded (InOrder handle deadline) exchanges) {errno : Errno}
    (hmem : lookFails handle errno ∈ exchanges) :
    (∃ before, exchanges = before ++ [lookFails handle errno]) ∧
      ∃ status, result = (handle.retire status, .stopped status) := by
  obtain ⟨before, hsplit⟩ := last_of_inOrder horder hmem (Or.inr ⟨errno, rfl⟩)
  have hlast := hconcluded.of_last hsplit
  obtain ⟨left, outcome⟩ := result
  cases outcome with
  | stopped status => exact ⟨⟨before, hsplit⟩, status, by rw [show left = _ from hlast.1]⟩
  | failed failure => cases hlast.1
  | overflowed => exact hlast.elim

theorem settles_iff (hdeadline : now.after? grace = some deadline)
    (hconcluded : Concluded handle deadline exchanges result)
    (horder : Preceded (InOrder handle deadline) exchanges) {status : ExitStatus}
    (hstopped : result.2 = .stopped status) :
    ∃ before last, exchanges = before ++ [last] ∧ Known handle status before ∧
      (Settles handle grace now before last ↔
        ∀ errno, lookFails handle errno ∈ exchanges → errno = Errno.noSuchProcess) := by
  obtain ⟨before, last, hsplit, hlast⟩ := hconcluded
  rw [hstopped] at hlast
  obtain ⟨-, hknown, hlast⟩ := hlast
  refine ⟨before, last, hsplit, hknown, ?_⟩
  -- A look that comes back with an error is the last exchange.
  have hlook (errno : Errno) (hmem : lookFails handle errno ∈ exchanges) : last = lookFails handle errno := by
    obtain ⟨before', hsplit'⟩ := last_of_inOrder horder hmem (Or.inr ⟨errno, rfl⟩)
    exact (List.cons.inj (List.append_inj' (hsplit.symm.trans hsplit') rfl).2).1
  rcases hlast with ⟨errno, rfl⟩ | ⟨⟨sent, rfl, hsent⟩, houtlives⟩
  · constructor
    · rintro (hnobody | hnobody | ⟨hsent, -⟩) other hmem
      · have hother := (hlook other hmem).symm.trans hnobody
        cases hother
        rfl
      · cases hnobody
      · cases hsent
    · intro hall
      obtain rfl : errno = Errno.noSuchProcess := hall errno (by rw [hsplit]; simp [lookFails])
      exact Or.inl rfl
  · refine iff_of_true ?_ fun errno hmem => (by cases hlook errno hmem)
    rcases hsent with rfl | rfl
    · exact Or.inr (Or.inr ⟨rfl, deadline, hdeadline, houtlives⟩)
    · exact Or.inr (Or.inl rfl)

end Conclusions

/-- What an answer with an error makes of an attempt to stop a process that is not retired. A signal that is
refused for another reason than that there is nobody ends it as a failure, after which the group is still
acted on. A look at the group that comes back with any error ends it as a success, after which nothing is
done when the handle is let go of. So an attempt that succeeds knows how the leader ended, and has seen
nothing left of the group if and only if its last look at the group was not refused for another reason than
that there is nobody. -/
theorem refusals_decide {handle : Handle} (hretired : handle.phase.isRetired = false) {grace : Duration}
    {now : Instant} {exchanges : List Exchange} {result : Result}
    (h : machine.Runs (start handle grace) (reads now :: exchanges) result) :
    (∀ signal errno, signalFails handle signal errno ∈ exchanges → errno ≠ Errno.noSuchProcess →
      (∃ before, exchanges = before ++ [signalFails handle signal errno]) ∧
        result.2 = .failed (handle.undelivered signal errno) ∧ StillActs handle result.1) ∧
    (∀ errno, lookFails handle errno ∈ exchanges →
      (∃ before, exchanges = before ++ [lookFails handle errno]) ∧
        ∃ status, result = (handle.retire status, .stopped status) ∧
          Discard.start result.1 = .finish [] ()) ∧
    ∀ status, result.2 = .stopped status →
      ∃ before last, exchanges = before ++ [last] ∧ Known handle status before ∧
        (Settles handle grace now before last ↔
          ∀ errno, lookFails handle errno ∈ exchanges → errno = Errno.noSuchProcess) := by
  obtain ⟨entries, hpath⟩ := h.path
  cases hdeadline : now.after? grace with
  | none =>
      obtain ⟨now, rest, hexchanges, ⟨-, rfl, rfl⟩ | ⟨hsome, -⟩⟩ := runs_start h
      · cases hexchanges
        exact ⟨by simp, by simp, by simp⟩
      · cases hexchanges
        rw [hdeadline] at hsome
        cases hsome
  | some deadline =>
      obtain ⟨⟨hconcluded, -⟩, horder⟩ := follows_of_path hdeadline hpath
      refine ⟨?_, ?_, fun status => settles_iff hdeadline hconcluded horder⟩
      · exact fun signal errno hmem herrno => signal_ends hconcluded horder hretired hmem herrno
      · intro errno hmem
        obtain ⟨hlast, status, rfl⟩ := look_ends hconcluded horder hmem
        exact ⟨hlast, status, rfl, rfl⟩

/-! ### An overlooked group

The leader ends when it is asked to. A member of its group that has become another user's lives on, and the
host does not let it be looked at. -/

namespace Sample

def overlooked : List Exchange :=
  [⟨.signalGroup 7 .terminate, (.ok () : Except Errno Unit)⟩,
    ⟨.awaitExitUntil 7 deadline, (some (.ok (.signaled .terminate)) : Option (Except Error ExitStatus))⟩,
    lookFails handle 1]

def left : ProcessTable := ⟨[{ pid := 7, leader := .reaped (.signaled .terminate), members := [{}] }]⟩

theorem overlooked_runs : machine.Runs (start handle (.ofSeconds 5)) (reads ⟨0⟩ :: overlooked)
    (handle.retire (.signaled .terminate), .stopped (.signaled .terminate)) :=
  .goOn (.goOn (.goOn (.goOn .finish)))

theorem overlooked_admits :
    ProcessTable.host.Admits ⟨[{ pid := 7, members := [{}] }]⟩ (reads ⟨0⟩ :: overlooked) left := by
  have hends : ProcessTable.host.acts ⟨[{ pid := 7, members := [{}] }]⟩
      ⟨[{ pid := 7, leader := .ended (.signaled .terminate), members := [{}] }]⟩ :=
    List.Forall₂.cons (.ends rfl) .nil
  refine .cons .refl rfl (.cons .refl rfl (.cons (.single hends) ?_ (.cons .refl rfl (.nil .refl))))
  exact ⟨⟨_, List.mem_cons_self, rfl, rfl⟩, rfl⟩

end Sample

theorem refusals_decide_overlooked :
    ∃ left status, machine.Runs (start Sample.handle (.ofSeconds 5)) (reads ⟨0⟩ :: Sample.overlooked)
        (left, .stopped status) ∧
      ProcessTable.host.Admits ⟨[{ pid := 7, members := [{}] }]⟩ (reads ⟨0⟩ :: Sample.overlooked)
        Sample.left ∧
      (∃ f ∈ Sample.left.families, f.pid = Sample.handle.group ∧ f.Spares) ∧
      Discard.start left = .finish [] () ∧
      ∃ before last, Sample.overlooked = before ++ [last] ∧
        ¬Settles Sample.handle (.ofSeconds 5) ⟨0⟩ before last := by
  obtain ⟨-, hlook, hstopped⟩ := refusals_decide rfl Sample.overlooked_runs
  obtain ⟨-, _, -, hdropped⟩ := hlook 1 (by simp [Sample.overlooked])
  obtain ⟨before, last, hsplit, -, hsettles⟩ := hstopped _ rfl
  refine ⟨_, _, Sample.overlooked_runs, Sample.overlooked_admits, ?_, hdropped, before, last, hsplit, ?_⟩
  · exact ⟨_, List.mem_cons_self, rfl, Or.inl ⟨_, List.mem_cons_self, rfl⟩⟩
  · intro hsettled
    exact absurd (hsettles.mp hsettled 1 (by simp [Sample.overlooked])) (by decide)

end Termination

end ClockWarden.Supervisor
