import ClockWarden.Proofs.Host.Killing
import ClockWarden.Proofs.Host.Patient
import ClockWarden.Proofs.Supervisor.Preceding
import ClockWarden.Proofs.Supervisor.Stopping

/-! How an attempt to stop a process escalates. After the clock has been read for the deadline, the group
is asked to end once, and it is killed when the leader or the rest of the group is found to have outlived
the deadline, and only then (`Due`). `InOrder` says of each exchange of an attempt how it follows from those
before it, and `Concluded` what an attempt that ends leaves; `escalates` has both for every attempt and all
answers of the host, and says what they mean in time on a host that keeps it. -/

namespace ClockWarden.Supervisor

open Host

namespace Handle

theorem retire_reap (h : Handle) (status : ExitStatus) : (h.reap status).retire status = h.retire status := by
  unfold reap
  split <;> rfl

theorem isRetired_reap (h : Handle) (status : ExitStatus) :
    (h.reap status).phase.isRetired = h.phase.isRetired := by
  cases hphase : h.phase <;> simp only [reap, hphase, Phase.isRetired]

end Handle

namespace Termination

/-- The failure that an exchange means: of a signal that is refused although there may be somebody to
receive it, or of a wait. -/
def failure? (handle : Handle) : Exchange → Option Failure
  | ⟨.signalGroup _ signal, answer⟩ =>
    match (answer : Except Errno Unit) with
    | .error errno =>
      if errno = Errno.noSuchProcess then none else some (handle.undelivered signal errno)
    | .ok () => none
  | ⟨.awaitExit _, answer⟩ =>
    match (answer : Except Error ExitStatus) with
    | .error cause => some (.host cause)
    | .ok _ => none
  | ⟨.awaitExitUntil _ _, answer⟩ =>
    match (answer : Option (Except Error ExitStatus)) with
    | some (.error cause) => some (.host cause)
    | _ => none
  | _ => none

/-- The wait for the leader that the deadline cuts short. -/
def runsOut (handle : Handle) (deadline : Instant) : Exchange :=
  ⟨.awaitExitUntil handle.pid deadline, (none : Option (Except Error ExitStatus))⟩

/-- A look at the group that finds members. -/
def findsMembers (handle : Handle) : Exchange := ⟨.probeGroup handle.group, (.ok () : Except Errno Unit)⟩

/-- A reading of the clock. -/
def reads (now : Instant) : Exchange := ⟨.readClock, now⟩

/-- The leader has been reaped, and how it ended is known: from before, or from the exchange that reaped
it. -/
def Known (handle : Handle) (status : ExitStatus) (exchanges : List Exchange) : Prop :=
  handle.phase.status? = some status ∨
    handle.phase = .unreaped ∧ ∃ exchange ∈ exchanges,
      exchange.call.subject? = some handle.pid ∧ exchange.reaped? = some status

/-- The leader has outlived the deadline: it was waited for, and the deadline has cut the wait short. -/
def LeaderOutlives (handle : Handle) (deadline : Instant) (before : List Exchange) : Prop :=
  handle.phase = .unreaped ∧ ∃ earlier, before = earlier ++ [runsOut handle deadline]

/-- The group has outlived its leader and the deadline: a look at it has found members, and a clock that was
read at once afterwards shows the deadline or a later time. -/
def GroupOutlives (handle : Handle) (deadline : Instant) (before : List Exchange) : Prop :=
  (∃ status, Known handle status before) ∧
    ∃ earlier now, before = earlier ++ [findsMembers handle, reads now] ∧ deadline ≤ now

/-- It is time to kill the group. -/
def Due (handle : Handle) (deadline : Instant) (before : List Exchange) : Prop :=
  LeaderOutlives handle deadline before ∨ GroupOutlives handle deadline before

/-- How an exchange of an attempt follows from those before it, all of them later than the reading of the
clock for the deadline. -/
structure InOrder (handle : Handle) (deadline : Instant) (before : List Exchange)
    (exchange : Exchange) : Prop where
  /-- The group is asked to end before anything else is done, and never again. -/
  asks : exchange.call = .signalGroup handle.group .terminate ↔ before = []
  /-- The group is killed when the leader or the group has outlived the deadline, and only then. -/
  kills : exchange.call = .signalGroup handle.group .kill ↔ Due handle deadline before
  /-- The leader has until the deadline. -/
  waits (pid : Pid) (limit : Instant) :
    exchange.call = .awaitExitUntil pid limit → pid = handle.pid ∧ limit = deadline
  /-- The group is looked at again as long as the same deadline has not come. -/
  rests (length : Duration) : exchange.call = .sleep length →
    ∃ earlier now, before = earlier ++ [findsMembers handle, reads now] ∧ ¬deadline ≤ now
  /-- Nothing follows a call that fails, or a look that finds the group empty. -/
  goesOn : ∀ earlier ∈ before,
    failure? handle earlier = none ∧ ¬earlier.FindsEmpty handle.group
  /-- A group that is found empty has not been killed, unless its leader has outlived the deadline. -/
  spares : exchange.FindsEmpty handle.group → runsOut handle deadline ∉ before →
    ∀ earlier ∈ before, ¬earlier.Kills handle.group

/-- What an attempt that has ended leaves. If it succeeds the leader has been reaped, its status is told, and
the group was found empty at last or was killed after it outlived the deadline. If it fails, the last call
has failed, and the process is retired no more than it was. -/
def Concluded (handle : Handle) (deadline : Instant) (exchanges : List Exchange) (result : Result) : Prop :=
  ∃ before last, exchanges = before ++ [last] ∧
    match result.2 with
    | .stopped status =>
      result.1 = handle.retire status ∧ Known handle status before ∧
        (last.FindsEmpty handle.group ∨
          last.KillArrives handle.group ∧ GroupOutlives handle deadline before)
    | .failed failure =>
      failure? handle last = some failure ∧ result.1.Same handle ∧
        result.1.phase.isRetired = handle.phase.isRetired
    | .overflowed => False

/-! ### The exchanges so far -/

section Exchanges

variable {handle : Handle} {deadline : Instant} {seen : List Exchange} {exchange : Exchange}

theorem Known.concat {status : ExitStatus} (h : Known handle status seen) (exchange : Exchange) :
    Known handle status (seen ++ [exchange]) :=
  h.imp_right fun h => ⟨h.1, h.2.imp fun _ hreaps => ⟨List.mem_append_left _ hreaps.1, hreaps.2⟩⟩

theorem Due.concat_cases (h : Due handle deadline (seen ++ [exchange])) :
    exchange = runsOut handle deadline ∨ ∃ now, exchange = reads now ∧ deadline ≤ now := by
  rcases h with ⟨-, earlier, hsplit⟩ | ⟨-, earlier, now, hsplit, hlate⟩
  · exact Or.inl (List.cons.inj (List.append_inj' hsplit rfl).2).1
  · rw [List.append_cons earlier] at hsplit
    exact Or.inr ⟨now, (List.cons.inj (List.append_inj' hsplit rfl).2).1, hlate⟩

theorem not_due_nil : ¬Due handle deadline [] := by
  rintro (⟨-, earlier, hsplit⟩ | ⟨-, earlier, now, hsplit, -⟩)
  · exact absurd hsplit.symm (List.append_ne_nil_of_right_ne_nil _ (List.cons_ne_nil _ _))
  · exact absurd hsplit.symm (List.append_ne_nil_of_right_ne_nil _ (List.cons_ne_nil _ _))

end Exchanges

/-- Nothing that has been answered ends an attempt. -/
def Open (handle : Handle) (seen : List Exchange) : Prop :=
  ∀ exchange ∈ seen, failure? handle exchange = none ∧ ¬exchange.FindsEmpty handle.group

theorem Open.concat {handle : Handle} {seen : List Exchange} (h : Open handle seen) (exchange : Exchange)
    (hfailure : failure? handle exchange = none) (hempty : ¬exchange.FindsEmpty handle.group) :
    Open handle (seen ++ [exchange]) := by
  intro other hmem
  rcases List.mem_append.mp hmem with hmem | hmem
  · exact h other hmem
  · rw [List.mem_singleton.mp hmem]
    exact ⟨hfailure, hempty⟩

/-- The signals that have been sent, and the groups that they were sent to. -/
def signals (exchanges : List Exchange) : List (Pid × Signal) :=
  exchanges.filterMap fun exchange => exchange.call.signal?

/-- The group has been asked to end, and has been killed at most for the sake of its leader. -/
def Pressed (handle : Handle) (deadline : Instant) (seen : List Exchange) : Prop :=
  signals seen = [(handle.group, .terminate)] ∨
    signals seen = [(handle.group, .terminate), (handle.group, .kill)] ∧ runsOut handle deadline ∈ seen

/-- The leader has been reaped, and the handle says so. -/
structure LeaderGone (handle : Handle) (deadline : Instant) (seen : List Exchange) (status : ExitStatus)
    (current : Handle) : Prop where
  current : current = handle.reap status
  known : Known handle status seen
  pressed : Pressed handle deadline seen

/-- What has happened by the time that an attempt has come to a stage. -/
def Behind (handle : Handle) (deadline : Instant) (seen : List Exchange) (t : Termination) : Prop :=
  match t.stage with
  | .beginning => False
  | .asking limit => limit = deadline ∧ t.handle = handle ∧ seen = []
  | .awaiting limit =>
    limit = deadline ∧ t.handle = handle ∧ handle.phase = .unreaped ∧
      signals seen = [(handle.group, .terminate)]
  | .forcing limit =>
    limit = deadline ∧ t.handle = handle ∧ handle.phase = .unreaped ∧
      signals seen = [(handle.group, .terminate)] ∧ runsOut handle deadline ∈ seen
  | .reaping limit =>
    limit = deadline ∧ t.handle = handle ∧ handle.phase = .unreaped ∧
      signals seen = [(handle.group, .terminate), (handle.group, .kill)] ∧ runsOut handle deadline ∈ seen
  | .probing limit status => limit = deadline ∧ LeaderGone handle deadline seen status t.handle
  | .checking limit status =>
    limit = deadline ∧ LeaderGone handle deadline seen status t.handle ∧
      ∃ earlier, seen = earlier ++ [findsMembers handle]
  | .resting limit status =>
    limit = deadline ∧ LeaderGone handle deadline seen status t.handle ∧
      ∃ earlier now, seen = earlier ++ [findsMembers handle, reads now] ∧ ¬deadline ≤ now
  | .clearing status =>
    LeaderGone handle deadline seen status t.handle ∧ GroupOutlives handle deadline seen

/-- Where an attempt stands after some exchanges. -/
structure Stands (handle : Handle) (deadline : Instant) (seen : List Exchange) (t : Termination) : Prop where
  behind : Behind handle deadline seen t
  isOpen : Open handle seen
  due : t.call = .signalGroup handle.group .kill ↔ Due handle deadline seen

theorem LeaderGone.group {handle current : Handle} {deadline : Instant} {seen : List Exchange}
    {status : ExitStatus} (h : LeaderGone handle deadline seen status current) :
    current.group = handle.group := by
  rw [h.current]
  exact (handle.same_reap status).1

theorem Pressed.signals_eq {handle : Handle} {deadline : Instant} {seen : List Exchange}
    (h : Pressed handle deadline seen) :
    signals seen = [(handle.group, .terminate)] ∨
      signals seen = [(handle.group, .terminate), (handle.group, .kill)] := h.imp_right And.left

theorem Behind.signals_eq {handle : Handle} {deadline : Instant} {seen : List Exchange} {t : Termination}
    (h : Behind handle deadline seen t) :
    (∃ limit, t.stage = .asking limit) ∧ t.handle = handle ∧ seen = [] ∨
      (∀ limit, t.stage ≠ .asking limit) ∧ (signals seen = [(handle.group, .terminate)] ∨
        signals seen = [(handle.group, .terminate), (handle.group, .kill)]) := by
  obtain ⟨current, grace, stage⟩ := t
  cases stage with
  | beginning => exact h.elim
  | asking limit => exact Or.inl ⟨⟨limit, rfl⟩, h.2.1, h.2.2⟩
  | awaiting limit => exact Or.inr ⟨by simp, Or.inl h.2.2.2⟩
  | forcing limit => exact Or.inr ⟨by simp, Or.inl h.2.2.2.1⟩
  | reaping limit => exact Or.inr ⟨by simp, Or.inr h.2.2.2.1⟩
  | probing limit status => exact Or.inr ⟨by simp, h.2.pressed.signals_eq⟩
  | checking limit status | resting limit status => exact Or.inr ⟨by simp, h.2.1.pressed.signals_eq⟩
  | clearing status => exact Or.inr ⟨by simp, h.1.pressed.signals_eq⟩

theorem kill_ne_terminate : Signal.kill ≠ .terminate := by decide

theorem Stands.asks {handle : Handle} {deadline : Instant} {seen : List Exchange} {t : Termination}
    (h : Stands handle deadline seen t) :
    t.call = .signalGroup handle.group .terminate ↔ seen = [] := by
  obtain ⟨current, grace, stage⟩ := t
  rcases h.behind.signals_eq with ⟨⟨limit, hstage⟩, hhandle, hseen⟩ | ⟨hstage, hsignals⟩
  · obtain rfl : stage = .asking limit := hstage
    obtain rfl : current = handle := hhandle
    exact ⟨fun _ => hseen, fun _ => rfl⟩
  · constructor
    · intro hcall
      cases stage with
      | asking limit => exact absurd rfl (hstage limit)
      | _ => simp [call, kill_ne_terminate] at hcall
    · rintro rfl
      rcases hsignals with hsignals | hsignals <;> cases hsignals

/-- Each exchange is in order after those before it. -/
theorem Stands.inOrder {handle : Handle} {deadline : Instant} {seen : List Exchange} {t : Termination}
    (h : Stands handle deadline seen t) (answer : t.call.Answer) :
    InOrder handle deadline seen ⟨t.call, answer⟩ where
  asks := h.asks
  kills := h.due
  waits pid limit hcall := by
    obtain ⟨current, grace, stage⟩ := t
    cases stage with
    | awaiting until' =>
        obtain ⟨rfl, rfl, -⟩ := h.behind
        cases hcall
        exact ⟨rfl, rfl⟩
    | _ => cases hcall
  rests length hcall := by
    obtain ⟨current, grace, stage⟩ := t
    cases stage with
    | resting limit status => exact h.behind.2.2
    | _ => cases hcall
  goesOn := h.isOpen
  spares hempty hwaited earlier hmem hkills := by
    obtain ⟨current, grace, stage⟩ := t
    obtain ⟨errno, hempty⟩ := hempty
    cases stage with
    | probing limit status =>
        rcases h.behind.2.pressed with hsignals | ⟨-, hmem⟩
        · obtain ⟨sent, rfl⟩ := hkills
          have hkill : (handle.group, Signal.kill) ∈ Termination.signals seen :=
            List.mem_filterMap.mpr ⟨_, hmem, rfl⟩
          rw [hsignals] at hkill
          simp [kill_ne_terminate] at hkill
        · exact hwaited hmem
    | _ => cases hempty

/-! ### The step -/

theorem signals_concat (seen : List Exchange) (exchange : Exchange) :
    signals (seen ++ [exchange]) = signals seen ++ exchange.call.signal?.toList := by
  unfold signals
  rw [List.filterMap_append]
  cases hsignal : exchange.call.signal? <;> simp [hsignal]

theorem delivered_failure (handle : Handle) (group : Pid) (signal : Signal) (sent : Except Errno Unit) :
    (handle.delivered signal sent = .ok () ∧ failure? handle ⟨.signalGroup group signal, sent⟩ = none ∧
        (sent = .ok () ∨ sent = .error Errno.noSuchProcess)) ∨
      ∃ failure, handle.delivered signal sent = .error failure ∧
        failure? handle ⟨.signalGroup group signal, sent⟩ = some failure := by
  rcases handle.delivered_cases signal sent with ⟨hd, rfl | rfl⟩ | ⟨errno, rfl, herrno, hd⟩
  · exact Or.inl ⟨hd, rfl, Or.inl rfl⟩
  · exact Or.inl ⟨hd, rfl, Or.inr rfl⟩
  · exact Or.inr ⟨_, hd, if_neg herrno⟩

/-- A failure names the process, and nothing else that its handle says. -/
theorem failure?_congr {h g : Handle} (hpid : h.pid = g.pid) (exchange : Exchange) :
    failure? h exchange = failure? g exchange := by
  unfold failure? Handle.undelivered
  rw [hpid]

/-- Where an attempt that has ended stands after its exchanges. -/
def Stood (handle : Handle) (deadline : Instant) (seen : List Exchange) (result : Result) : Prop :=
  Concluded handle deadline seen result ∧
    signals seen <+: [(handle.group, .terminate), (handle.group, .kill), (handle.group, .kill)]

/-- What the exchanges have led to, be it the end or not. -/
def Follows (handle : Handle) (deadline : Instant) (seen : List Exchange) : Turn Termination Result → Prop :=
  Turn.Leads (Stands handle deadline seen) (Stood handle deadline seen)

/-- An exchange that neither ends an attempt nor shows that the deadline has come. -/
structure Passes (handle : Handle) (deadline : Instant) (exchange : Exchange) : Prop where
  goesOn : failure? handle exchange = none
  peopled : ¬exchange.FindsEmpty handle.group
  waited : exchange ≠ runsOut handle deadline
  early (now : Instant) : exchange = reads now → ¬deadline ≤ now

section Steps

variable {handle current : Handle} {grace : Duration} {deadline limit : Instant} {seen : List Exchange}
  {exchange : Exchange} {status : ExitStatus}

theorem passes_signal {group : Pid} {signal : Signal} {sent : Except Errno Unit}
    (hfailure : failure? handle ⟨.signalGroup group signal, sent⟩ = none) :
    Passes handle deadline ⟨.signalGroup group signal, sent⟩ where
  goesOn := hfailure
  peopled := by
    rintro ⟨errno, hempty⟩
    cases hempty
  waited hout := by cases hout
  early now hreads := by cases hreads

theorem passes_reaped (hreaped : exchange.reaped? = some status) (hfailure : failure? handle exchange = none) :
    Passes handle deadline exchange where
  goesOn := hfailure
  peopled := by
    rintro ⟨errno, rfl⟩
    cases hreaped
  waited hout := by
    subst hout
    cases hreaped
  early now hreads := by
    subst hreads
    cases hreaped

theorem passes_findsMembers : Passes handle deadline (findsMembers handle) where
  goesOn := rfl
  peopled := by
    rintro ⟨errno, hempty⟩
    cases hempty
  waited hout := by cases hout
  early now hreads := by cases hreads

theorem passes_reads {now : Instant} (hearly : ¬deadline ≤ now) : Passes handle deadline (reads now) where
  goesOn := rfl
  peopled := by
    rintro ⟨errno, hempty⟩
    cases hempty
  waited hout := by cases hout
  early shown hreads := by
    cases hreads
    exact hearly

theorem passes_rest : Passes handle deadline ⟨.sleep pollInterval, ()⟩ where
  goesOn := rfl
  peopled := by
    rintro ⟨errno, hempty⟩
    cases hempty
  waited hout := by cases hout
  early now hreads := by cases hreads

/-- An exchange that passes leads to a stage that does not kill. -/
theorem Passes.stands (h : Passes handle deadline exchange) (hopen : Open handle seen) {next : Termination}
    (hcall : next.call ≠ .signalGroup handle.group .kill)
    (hbehind : Behind handle deadline (seen ++ [exchange]) next) :
    Stands handle deadline (seen ++ [exchange]) next where
  behind := hbehind
  isOpen := hopen.concat exchange h.goesOn h.peopled
  due := by
    refine iff_of_false hcall fun hdue => ?_
    rcases hdue.concat_cases with hout | ⟨now, hreads, hlate⟩
    · exact h.waited hout
    · exact h.early now hreads hlate

theorem Stands.follows_asked (h : Stands handle deadline seen ⟨current, grace, .asking limit⟩)
    (sent : Except Errno Unit) :
    Follows handle deadline (seen ++ [⟨.signalGroup current.group .terminate, sent⟩])
      (asked ⟨current, grace, .asking limit⟩ limit sent) := by
  obtain ⟨rfl, rfl, rfl⟩ := h.behind
  unfold asked
  rcases delivered_failure current current.group .terminate sent with
    ⟨hd, hfailure, -⟩ | ⟨failure, hd, hfailure⟩ <;> simp only [hd]
  · cases hphase : current.phase with
    | unreaped => exact (passes_signal hfailure).stands h.isOpen (by simp [call]) ⟨rfl, rfl, hphase, rfl⟩
    | reaped status | retired status =>
        have hknown : current.phase.status? = some status := by rw [hphase]; rfl
        have hcurrent : current = current.reap status := by simp only [Handle.reap, hphase]
        exact (passes_signal hfailure).stands h.isOpen (by simp [call])
          ⟨rfl, hcurrent, Or.inl hknown, Or.inl rfl⟩
  · exact ⟨⟨[], _, rfl, hfailure, Handle.Same.refl current, rfl⟩, _, rfl⟩

/-- The leader has been reaped: the group is next. -/
theorem Open.stands_probing (hopen : Open handle seen) (hphase : handle.phase = .unreaped)
    (hsubject : exchange.call.subject? = some handle.pid) (hreaped : exchange.reaped? = some status)
    (hfailure : failure? handle exchange = none)
    (hpressed : Pressed handle deadline (seen ++ [exchange])) :
    Stands handle deadline (seen ++ [exchange])
      ⟨handle.reap status, grace, .probing deadline status⟩ := by
  have hknown : Known handle status (seen ++ [exchange]) :=
    Or.inr ⟨hphase, exchange, by simp, hsubject, hreaped⟩
  exact (passes_reaped hreaped hfailure).stands hopen (by simp [call]) ⟨rfl, rfl, hknown, hpressed⟩

theorem Stands.follows_awaited (h : Stands handle deadline seen ⟨current, grace, .awaiting limit⟩)
    (ended : Option (Except Error ExitStatus)) :
    Follows handle deadline (seen ++ [⟨.awaitExitUntil current.pid limit, ended⟩])
      (awaited ⟨current, grace, .awaiting limit⟩ limit ended) := by
  obtain ⟨rfl, rfl, hphase, hsignals⟩ := h.behind
  have hsent (ended : Option (Except Error ExitStatus)) :
      signals (seen ++ [⟨.awaitExitUntil current.pid limit, ended⟩]) = [(current.group, .terminate)] := by
    rw [signals_concat, hsignals]
    rfl
  rcases ended with _ | cause | status
  · have hout : runsOut current limit ∈ seen ++ [runsOut current limit] := by simp
    refine ⟨⟨rfl, rfl, hphase, hsent none, hout⟩, ?_, iff_of_true rfl (Or.inl ⟨hphase, seen, rfl⟩)⟩
    refine h.isOpen.concat (runsOut current limit) rfl ?_
    rintro ⟨errno, hempty⟩
    cases hempty
  · refine ⟨⟨seen, _, rfl, rfl, Handle.Same.refl current, rfl⟩, ?_⟩
    rw [hsent]
    exact ⟨_, rfl⟩
  · exact h.isOpen.stands_probing hphase rfl rfl rfl (Or.inl (hsent _))

theorem Stands.follows_forced (h : Stands handle deadline seen ⟨current, grace, .forcing limit⟩)
    (sent : Except Errno Unit) :
    Follows handle deadline (seen ++ [⟨.signalGroup current.group .kill, sent⟩])
      (forced ⟨current, grace, .forcing limit⟩ limit sent) := by
  obtain ⟨rfl, rfl, hphase, hsignals, hout⟩ := h.behind
  have hsent : signals (seen ++ [⟨.signalGroup current.group .kill, sent⟩]) =
      [(current.group, .terminate), (current.group, .kill)] := by
    rw [signals_concat, hsignals]
    rfl
  unfold forced
  rcases delivered_failure current current.group .kill sent with
    ⟨hd, hfailure, -⟩ | ⟨failure, hd, hfailure⟩ <;> simp only [hd]
  · exact (passes_signal hfailure).stands h.isOpen (by simp [call])
      ⟨rfl, rfl, hphase, hsent, List.mem_append_left _ hout⟩
  · refine ⟨⟨seen, _, rfl, hfailure, Handle.Same.refl current, rfl⟩, ?_⟩
    rw [hsent]
    exact ⟨_, rfl⟩

theorem Stands.follows_leaderEnded (h : Stands handle deadline seen ⟨current, grace, .reaping limit⟩)
    (ended : Except Error ExitStatus) :
    Follows handle deadline (seen ++ [⟨.awaitExit current.pid, ended⟩])
      (leaderEnded ⟨current, grace, .reaping limit⟩ limit ended) := by
  obtain ⟨rfl, rfl, hphase, hsignals, hout⟩ := h.behind
  have hsent : signals (seen ++ [⟨.awaitExit current.pid, ended⟩]) =
      [(current.group, .terminate), (current.group, .kill)] := by
    rw [signals_concat, hsignals]
    rfl
  rcases ended with cause | status
  · refine ⟨⟨seen, _, rfl, rfl, Handle.Same.refl current, rfl⟩, ?_⟩
    rw [hsent]
    exact ⟨_, rfl⟩
  · exact h.isOpen.stands_probing hphase rfl rfl rfl (Or.inr ⟨hsent, List.mem_append_left _ hout⟩)

/-- What is known of the leader stays so while the group is looked at. -/
theorem LeaderGone.concat (h : LeaderGone handle deadline seen status current) (exchange : Exchange)
    (hsignal : exchange.call.signal? = none) :
    LeaderGone handle deadline (seen ++ [exchange]) status current := by
  refine ⟨h.current, h.known.concat exchange, ?_⟩
  unfold Pressed
  rw [signals_concat, hsignal, Option.toList_none, List.append_nil]
  exact h.pressed.imp_right (And.imp_right (List.mem_append_left _))

theorem Pressed.atMost (h : Pressed handle deadline seen) :
    signals seen <+: [(handle.group, .terminate), (handle.group, .kill), (handle.group, .kill)] := by
  rcases h.signals_eq with hsignals | hsignals <;> rw [hsignals]
  · exact ⟨_, rfl⟩
  · exact ⟨_, rfl⟩

theorem Stands.follows_probed (h : Stands handle deadline seen ⟨current, grace, .probing limit status⟩)
    (found : Except Errno Unit) :
    Follows handle deadline (seen ++ [⟨.probeGroup current.group, found⟩])
      (probed ⟨current, grace, .probing limit status⟩ limit status found) := by
  obtain ⟨rfl, hgone⟩ := h.behind
  have hlater := hgone.concat ⟨.probeGroup current.group, found⟩ rfl
  rw [hgone.group] at hlater ⊢
  rcases found with errno | ⟨⟩
  · refine ⟨⟨seen, _, rfl, ?_, hgone.known, Or.inl ⟨errno, rfl⟩⟩, hlater.pressed.atMost⟩
    rw [hgone.current]
    exact handle.retire_reap status
  · exact passes_findsMembers.stands h.isOpen (by simp [call]) ⟨rfl, hlater, seen, rfl⟩

theorem Stands.follows_checked (h : Stands handle deadline seen ⟨current, grace, .checking limit status⟩)
    (now : Instant) :
    Follows handle deadline (seen ++ [reads now])
      (checked ⟨current, grace, .checking limit status⟩ limit status now) := by
  obtain ⟨rfl, hgone, earlier, rfl⟩ := h.behind
  have hlater := hgone.concat (reads now) rfl
  have hsplit : earlier ++ [findsMembers handle] ++ [reads now] =
      earlier ++ [findsMembers handle, reads now] := List.append_assoc _ _ _
  unfold checked
  split
  · rename_i hlate
    have houtlives : GroupOutlives handle limit (earlier ++ [findsMembers handle] ++ [reads now]) :=
      ⟨⟨status, hlater.known⟩, earlier, now, hsplit, hlate⟩
    refine ⟨⟨hlater, houtlives⟩, h.isOpen.concat (reads now) rfl ?_, iff_of_true ?_ (Or.inr houtlives)⟩
    · rintro ⟨errno, hempty⟩
      cases hempty
    · exact congrArg (fun group => Call.signalGroup group .kill) hgone.group
  · rename_i hearly
    exact (passes_reads hearly).stands h.isOpen (by simp [call]) ⟨rfl, hlater, earlier, now, hsplit, hearly⟩

theorem Stands.follows_rested (h : Stands handle deadline seen ⟨current, grace, .resting limit status⟩) :
    Follows handle deadline (seen ++ [⟨.sleep pollInterval, ()⟩])
      (goOn ⟨current, grace, .resting limit status⟩ (.probing limit status)) := by
  obtain ⟨rfl, hgone, -⟩ := h.behind
  exact passes_rest.stands h.isOpen (by simp [call]) ⟨rfl, hgone.concat ⟨.sleep pollInterval, ()⟩ rfl⟩

theorem Stands.follows_cleared (h : Stands handle deadline seen ⟨current, grace, .clearing status⟩)
    (sent : Except Errno Unit) :
    Follows handle deadline (seen ++ [⟨.signalGroup current.group .kill, sent⟩])
      (cleared ⟨current, grace, .clearing status⟩ status sent) := by
  obtain ⟨hgone, houtlives⟩ := h.behind
  have hsent : signals (seen ++ [⟨.signalGroup handle.group .kill, sent⟩]) <+:
      [(handle.group, .terminate), (handle.group, .kill), (handle.group, .kill)] := by
    rw [signals_concat]
    rcases hgone.pressed.signals_eq with hsignals | hsignals <;> rw [hsignals]
    · exact ⟨_, rfl⟩
    · exact ⟨_, rfl⟩
  rw [hgone.group]
  obtain rfl := hgone.current
  have hsame := handle.same_reap status
  unfold cleared
  rcases delivered_failure (handle.reap status) handle.group .kill sent with
    ⟨hd, -, harrives⟩ | ⟨failure, hd, hfailure⟩ <;> simp only [hd]
  · exact ⟨⟨seen, _, rfl, handle.retire_reap status, hgone.known,
      Or.inr ⟨⟨sent, rfl, harrives⟩, houtlives⟩⟩, hsent⟩
  · rw [failure?_congr hsame.1] at hfailure
    exact ⟨⟨seen, _, rfl, hfailure, hsame, handle.isRetired_reap status⟩, hsent⟩

end Steps

/-- Every answer leaves an attempt where the exchanges up to it say, or has ended it. -/
theorem Stands.follows {handle : Handle} {deadline : Instant} {seen : List Exchange} {t : Termination}
    (h : Stands handle deadline seen t) (answer : t.call.Answer) :
    Follows handle deadline (seen ++ [⟨t.call, answer⟩]) (t.receive answer) := by
  obtain ⟨current, grace, stage⟩ := t
  cases stage with
  | beginning => exact h.behind.elim
  | asking limit => exact h.follows_asked answer
  | awaiting limit => exact h.follows_awaited answer
  | forcing limit => exact h.follows_forced answer
  | reaping limit => exact h.follows_leaderEnded answer
  | probing limit status => exact h.follows_probed answer
  | checking limit status => exact h.follows_checked answer
  | resting limit status => exact h.follows_rested
  | clearing status => exact h.follows_cleared answer

/-- Once the deadline is known the group is to be asked. -/
theorem stands_asking (handle : Handle) (grace : Duration) (deadline : Instant) :
    Stands handle deadline [] ⟨handle, grace, .asking deadline⟩ where
  behind := ⟨rfl, rfl, rfl⟩
  isOpen := fun exchange hmem => (by cases hmem)
  due := by
    refine iff_of_false ?_ not_due_nil
    simp [call, kill_ne_terminate.symm]

/-! ### The run -/

/-- An attempt begins by reading the clock. -/
theorem path_start {handle : Handle} {grace : Duration} {exchange : Exchange} {exchanges : List Exchange}
    {turn : Turn Termination Result}
    (h : machine.Path (start handle grace) (exchange :: exchanges) turn) :
    ∃ now, exchange = reads now ∧
      machine.Path (timed ⟨handle, grace, .beginning⟩ now) exchanges turn := by
  obtain ⟨entries, t, answer, hfirst, hexchange, hpath⟩ := h.of_cons
  cases hfirst
  exact ⟨answer, hexchange, hpath⟩

/-- However the host answers, an attempt with a deadline that the clock can count to makes each of its calls
in order, and stands where its exchanges say. -/
theorem follows_of_path {handle : Handle} {grace : Duration} {now deadline : Instant}
    (hdeadline : now.after? grace = some deadline) {exchanges : List Exchange}
    {turn : Turn Termination Result}
    (h : machine.Path (start handle grace) (reads now :: exchanges) turn) :
    Follows handle deadline exchanges turn ∧ Preceded (InOrder handle deadline) exchanges := by
  obtain ⟨now, hreads, hpath⟩ := path_start h
  cases hreads
  simp only [timed, hdeadline] at hpath
  have hkeeps (seen : List Exchange) (t : Termination) (answer : t.call.Answer)
      (hstands : Stands handle deadline seen t) :
      InOrder handle deadline seen ⟨t.call, answer⟩ ∧
        Follows handle deadline (seen ++ [⟨t.call, answer⟩]) (t.receive answer) :=
    ⟨hstands.inOrder answer, hstands.follows answer⟩
  exact hpath.preceded hkeeps (stands_asking handle grace deadline)

theorem Follows.signals {handle : Handle} {deadline : Instant} {exchanges : List Exchange}
    {turn : Turn Termination Result} (h : Follows handle deadline exchanges turn) :
    signals exchanges <+: [(handle.group, .terminate), (handle.group, .kill), (handle.group, .kill)] := by
  cases turn with
  | finish entries result => exact h.2
  | goOn entries t =>
      rcases h.behind.signals_eq with ⟨-, -, rfl⟩ | ⟨-, hsignals | hsignals⟩
      · exact List.nil_prefix
      · rw [hsignals]
        exact ⟨_, rfl⟩
      · rw [hsignals]
        exact ⟨_, rfl⟩

/-- What the exchanges of an attempt mean in time: the group is not killed before the deadline, which is the
grace after the attempt began, and not at all if it has been found empty by then. -/
def Timely (handle : Handle) (grace : Duration) (deadline begins moment : Instant)
    (before : List Exchange) (exchange : Exchange) : Prop :=
  (exchange.Kills handle.group → deadline ≤ moment ∧ begins.nanos + grace.nanos ≤ moment.nanos) ∧
    (exchange.FindsEmpty handle.group → ¬deadline ≤ moment →
      ∀ earlier ∈ before, ¬earlier.Kills handle.group)

theorem Due.le_moment {handle : Handle} {deadline : Instant} {before : List Exchange}
    (h : Due handle deadline before) {clock : Exchange} {begins moment : Instant}
    (hadmits : patient.Admits begins (clock :: before) moment) : deadline ≤ moment := by
  rcases h with ⟨-, earlier, rfl⟩ | ⟨-, earlier, now, rfl, hlate⟩
  · have hout : runsOut handle deadline ∈ clock :: (earlier ++ [runsOut handle deadline]) := by simp
    exact hadmits.lasted hout
  · have hshown : reads now ∈ clock :: (earlier ++ [findsMembers handle, reads now]) := by simp
    exact Instant.le_trans hlate (hadmits.reading hshown).2

theorem InOrder.timely {handle : Handle} {grace : Duration} {now deadline : Instant}
    {before : List Exchange} {exchange : Exchange} (h : InOrder handle deadline before exchange)
    (hdeadline : now.after? grace = some deadline) {begins moment : Instant}
    (hadmits : patient.Admits begins (reads now :: before) moment) :
    Timely handle grace deadline begins moment before exchange := by
  constructor
  · rintro ⟨sent, rfl⟩
    have hreached : deadline ≤ moment := (h.kills.mp rfl).le_moment hadmits
    have hbegins : begins ≤ now := (hadmits.reading List.mem_cons_self).1
    have hgrace : now.nanos + grace.nanos = deadline.nanos := Instant.nanos_of_after hdeadline
    refine ⟨hreached, ?_⟩
    calc begins.nanos + grace.nanos
        ≤ now.nanos + grace.nanos := Nat.add_le_add_right hbegins _
      _ = deadline.nanos := hgrace
      _ ≤ moment.nanos := hreached
  · intro hempty hearly
    refine h.spares hempty fun hout => hearly ?_
    exact hadmits.lasted (List.mem_cons_of_mem _ hout)

/-- However the host answers, an attempt to stop a process with a deadline that the clock can count to sends
the group one `SIGTERM` and then at most two `SIGKILL`s, makes each of its calls in order, and leaves what
its outcome says; and on a host that keeps time no `SIGKILL` comes before the deadline. -/
theorem escalates {handle : Handle} {grace : Duration} {now deadline : Instant}
    (hdeadline : now.after? grace = some deadline) {exchanges : List Exchange}
    {turn : Turn Termination Result}
    (h : machine.Path (start handle grace) (reads now :: exchanges) turn) :
    signals exchanges <+: [(handle.group, .terminate), (handle.group, .kill), (handle.group, .kill)] ∧
      Preceded (InOrder handle deadline) exchanges ∧
      (∀ begins moment, Preceded (fun before exchange =>
        patient.Admits begins (reads now :: before) moment →
          Timely handle grace deadline begins moment before exchange) exchanges) ∧
      turn.Leads (fun _ => True) (Concluded handle deadline exchanges) := by
  obtain ⟨hfollows, horder⟩ := follows_of_path hdeadline h
  refine ⟨hfollows.signals, horder, ?_, hfollows.imp (fun _ _ => trivial) (fun _ hstood => hstood.1)⟩
  intro begins moment
  exact horder.imp fun before exchange hin hadmits => hin.timely hdeadline hadmits

/-! ### A stubborn process

The leader ignores `SIGTERM` until the deadline, and leaves a member behind that has ended but has not been
reaped when the group is looked at. -/

namespace Sample

def handle : Handle where
  pid := 7
  environment := .empty
  fakeTime := none
  startedAt := ⟨⟨2025, 6, 21, by decide⟩, ⟨61, 0, by decide⟩⟩

def deadline : Instant := ⟨5000000000⟩

def exchanges : List Exchange :=
  [⟨.signalGroup 7 .terminate, (.ok () : Except Errno Unit)⟩,
    ⟨.awaitExitUntil 7 deadline, (none : Option (Except Error ExitStatus))⟩,
    ⟨.signalGroup 7 .kill, (.ok () : Except Errno Unit)⟩,
    ⟨.awaitExit 7, (.ok (.signaled .kill) : Except Error ExitStatus)⟩,
    ⟨.probeGroup 7, (.ok () : Except Errno Unit)⟩,
    ⟨.readClock, deadline⟩,
    ⟨.signalGroup 7 .kill, (.ok () : Except Errno Unit)⟩]

theorem runs : machine.Runs (start handle (.ofSeconds 5)) (reads ⟨0⟩ :: exchanges)
    (handle.retire (.signaled .kill), .stopped (.signaled .kill)) :=
  .goOn (.goOn (.goOn (.goOn (.goOn (.goOn (.goOn (.goOn .finish)))))))

end Sample

theorem escalates_twice :
    ∃ turn, machine.Path (start Sample.handle (.ofSeconds 5)) (reads ⟨0⟩ :: Sample.exchanges) turn ∧
      signals Sample.exchanges = [(7, .terminate), (7, .kill), (7, .kill)] ∧
      Preceded (InOrder Sample.handle Sample.deadline) Sample.exchanges ∧
      turn.Leads (fun _ => True) (Concluded Sample.handle Sample.deadline Sample.exchanges) := by
  obtain ⟨entries, hpath⟩ := Sample.runs.path
  have hdeadline : (⟨0⟩ : Instant).after? (.ofSeconds 5) = some Sample.deadline := by decide
  obtain ⟨-, horder, -, hconcluded⟩ := escalates hdeadline hpath
  exact ⟨_, hpath, rfl, horder, hconcluded⟩

end Termination

end ClockWarden.Supervisor
