import ClockWarden.Proofs.Supervisor.Attaining
import ClockWarden.Supervisor.Operation

/-! Every operation comes to an end. A group that is being stopped is looked at again and again, but each
rest brings the deadline nearer, so what is left of the time bounds what is left to be done
(`Termination.rank`); all else is done once (`Underway.rank`). So no operation runs for ever on a punctual
host, whatever that host refuses (`Operation.Underway.attains`). -/

namespace ClockWarden.Supervisor

open Host

/-- The time that is left until a deadline. -/
def remaining (deadline now : Instant) : Nat := deadline.nanos - now.nanos

theorem remaining_le {before after : Instant} (h : before ≤ after) (deadline : Instant) :
    remaining deadline after ≤ remaining deadline before :=
  Nat.sub_le_sub_left h deadline.nanos

theorem remaining_pos {deadline now : Instant} (h : ¬deadline ≤ now) : 0 < remaining deadline now :=
  Nat.sub_pos_of_lt (Nat.lt_of_not_le h)

namespace Termination

/-- A bound on the calls that are still made to stop a process. A group that is looked at, with some time
left, costs three calls until it is looked at again; while it rests its time may run out, and one more
round is made all the same. -/
def rank (t : Termination) (now : Instant) : Nat :=
  match t.stage with
  | .beginning => 3 * t.grace.nanos + 8
  | .asking deadline => 3 * remaining deadline now + 7
  | .awaiting deadline => 3 * remaining deadline now + 6
  | .forcing deadline => 3 * remaining deadline now + 5
  | .reaping deadline => 3 * remaining deadline now + 4
  | .probing deadline _ => 3 * remaining deadline now + 3
  | .checking deadline _ => 3 * remaining deadline now + 2
  | .resting deadline _ => max (3 * remaining deadline now + 1) 4
  | .clearing _ => 1

theorem rank_le (t : Termination) {before after : Instant} (h : before ≤ after) :
    t.rank after ≤ t.rank before := by
  obtain ⟨handle, grace, stage⟩ := t
  have hremaining := remaining_le h
  cases stage with
  | beginning | clearing status => exact Nat.le_refl _
  | asking deadline | awaiting deadline | forcing deadline | reaping deadline
  | probing deadline status | checking deadline status | resting deadline status =>
      have hdeadline := hremaining deadline
      simp only [rank]
      omega

theorem remaining_of_after {now deadline : Instant} {grace : Duration}
    (h : now.after? grace = some deadline) : remaining deadline now = grace.nanos := by
  unfold Instant.after? at h
  split at h
  · cases h
    exact Nat.add_sub_cancel_left _ _
  · cases h

theorem remaining_le_of_rest {before after : Instant} (deadline : Instant)
    (h : before.nanos + pollInterval.nanos ≤ after.nanos) :
    remaining deadline after ≤ remaining deadline before - 1 := by
  have hinterval : 0 < pollInterval.nanos := by decide
  unfold remaining
  omega

/-- Each answer brings an attempt to stop a process nearer to its end. -/
theorem rank_receive (t : Termination) {before after : Instant} {answer : t.call.Answer}
    (h : Elapses before after t.call answer) :
    (t.receive answer).Leads (fun next => next.rank after < t.rank before) (fun _ => True) := by
  have hlater := remaining_le h.le
  obtain ⟨handle, grace, stage⟩ := t
  cases stage with
  | beginning =>
      -- The deadline is reckoned from the time that the clock shows, which is the time after the call.
      obtain ⟨-, rfl⟩ : before ≤ after ∧ answer = after := h
      change (timed ⟨handle, grace, .beginning⟩ answer).Leads _ _
      unfold timed
      split
      · exact trivial
      · rename_i deadline hdeadline
        have hgrace : remaining deadline answer = grace.nanos := remaining_of_after hdeadline
        simp only [goOn, Turn.leads_goOn, rank]
        omega
  | asking deadline =>
      have hremaining := hlater deadline
      change (asked ⟨handle, grace, .asking deadline⟩ deadline answer).Leads _ _
      unfold asked
      split
      · exact trivial
      · split <;> simp only [goOn, Turn.leads_goOn, rank] <;> omega
  | awaiting deadline =>
      have hremaining := hlater deadline
      change (awaited ⟨handle, grace, .awaiting deadline⟩ deadline answer).Leads _ _
      rcases answer with _ | cause | status
      · simp only [awaited, goOn, Turn.leads_after, Turn.leads_goOn, rank]
        omega
      · exact trivial
      · simp only [awaited, leaderEnded, goOn, Turn.leads_goOn, rank]
        omega
  | forcing deadline =>
      have hremaining := hlater deadline
      change (forced ⟨handle, grace, .forcing deadline⟩ deadline answer).Leads _ _
      unfold forced
      split
      · exact trivial
      · simp only [goOn, Turn.leads_goOn, rank]
        omega
  | reaping deadline =>
      have hremaining := hlater deadline
      change (leaderEnded ⟨handle, grace, .reaping deadline⟩ deadline answer).Leads _ _
      rcases answer with cause | status
      · exact trivial
      · simp only [leaderEnded, goOn, Turn.leads_goOn, rank]
        omega
  | probing deadline status =>
      have hremaining := hlater deadline
      change (probed ⟨handle, grace, .probing deadline status⟩ deadline status answer).Leads _ _
      rcases answer with errno | ⟨⟩
      · exact trivial
      · simp only [probed, goOn, Turn.leads_goOn, rank]
        omega
  | checking deadline status =>
      obtain ⟨-, rfl⟩ : before ≤ after ∧ answer = after := h
      have hremaining := hlater deadline
      change (checked ⟨handle, grace, .checking deadline status⟩ deadline status answer).Leads _ _
      unfold checked
      split
      · simp only [goOn, Turn.leads_after, Turn.leads_goOn, rank]
        omega
      · rename_i hleft
        have hpositive := remaining_pos hleft
        simp only [goOn, Turn.leads_goOn, rank]
        omega
  | resting deadline status =>
      -- The deadline may have passed in the rest. A look at the group that follows it costs three calls all
      -- the same, so the rank of a rest never falls below four.
      have hrested := remaining_le_of_rest deadline h
      change 3 * remaining deadline after + 3 < max (3 * remaining deadline before + 1) 4
      omega
  | clearing status =>
      change (cleared ⟨handle, grace, .clearing status⟩ status answer).Leads _ _
      unfold cleared
      split <;> exact trivial

end Termination

def Launch.rank (l : Launch) : Nat :=
  match l.stage with
  | .spawning => 2
  | .stamping _ => 1

def Discard.rank (d : Discard) : Nat :=
  match d.stage with
  | .polling => 3
  | .killing => 2
  | .releasing => 1

namespace Operation.Underway

/-- A bound on the calls that an operation still makes. A launch follows a stop, and letting go of a process
follows a look at it. -/
def rank (u : Underway) (now : Instant) : Nat :=
  match u.stage with
  | .stopping _ termination => termination.rank now + 4
  | .inheriting _ => 3
  | .launching launch => launch.rank
  | .polling _ => 4
  | .discarding discard => discard.rank

theorem rank_le (u : Underway) {before after : Instant} (h : before ≤ after) :
    u.rank after ≤ u.rank before := by
  obtain ⟨deployment, launches, stage⟩ := u
  cases stage with
  | stopping aim termination => exact Nat.add_le_add_right (termination.rank_le h) 4
  | _ => exact Nat.le_refl _

/-- What follows a stop takes at most three calls, and so does what follows a look at a process. -/
theorem rank_retired (u : Underway) (aim : Aim) (result : Termination.Result) (now : Instant) :
    (u.retired aim result).Leads (fun next => next.rank now < 4) (fun _ => True) := by
  obtain ⟨handle, outcome⟩ := result
  cases outcome with
  | stopped status =>
      refine (Turn.leads_after _ _).mpr ?_
      cases aim with
      | launch time => exact Nat.lt_succ_self 3
      | stop => exact trivial
  | failed failure => exact trivial
  | overflowed => exact trivial

theorem rank_inspected (u : Underway) (found : Handle × Bool) (now : Instant) :
    (u.inspected found).Leads (fun next => next.rank now < 4) (fun _ => True) := by
  obtain ⟨handle, runs⟩ := found
  cases runs with
  | true => exact trivial
  | false =>
      refine (Turn.leads_after _ _).mpr ((Turn.leads_within _).mpr ?_)
      unfold Discard.start
      split
      · exact Nat.lt_succ_self 3
      · exact Nat.lt_of_succ_lt (Nat.lt_succ_self 3)
      · exact trivial

theorem rank_receive (u : Underway) {before after : Instant} {answer : u.call.Answer}
    (h : Elapses before after u.call answer) :
    (u.receive answer).Leads (fun next => next.rank after < u.rank before) (fun _ => True) := by
  obtain ⟨deployment, launches, stage⟩ := u
  cases stage with
  | stopping aim termination =>
      refine (Turn.leads_within _).mpr ((termination.rank_receive h).imp ?_ ?_)
      · exact fun next hnext => Nat.add_lt_add_right hnext 4
      · intro result _
        refine (rank_retired _ aim result after).imp ?_ (fun _ _ => trivial)
        exact fun next hnext => Nat.lt_of_lt_of_le hnext (Nat.le_add_left 4 _)
  | inheriting time => exact Nat.lt_succ_self 2
  | launching launch =>
      obtain ⟨program, environment, time, stage⟩ := launch
      refine (Turn.leads_within _).mpr ?_
      cases stage with
      | spawning =>
          rcases answer with cause | pid
          · exact trivial
          · exact Nat.lt_succ_self 1
      | stamping pid => exact trivial
  | polling handle => exact (Turn.leads_after [] _).mpr (rank_inspected _ _ after)
  | discarding discard =>
      obtain ⟨handle, stage⟩ := discard
      refine (Turn.leads_within _).mpr ?_
      cases stage with
      | polling =>
          rcases answer with cause | _ | status <;> exact Nat.lt_succ_self 2
      | killing =>
          change (Discard.killed handle).Leads _ _
          unfold Discard.killed
          split
          · exact trivial
          · exact Nat.lt_succ_self 1
      | releasing => exact trivial

/-- On a punctual host every operation comes to an end. -/
theorem attains (now : Instant) (turn : Turn Underway Result) :
    machine.Attains punctual now turn fun exchanges result =>
      machine.Runs turn exchanges result ∧ ∃ last, punctual.Admits now exchanges last := by
  refine (Machine.attains_of_rank rank ?_ ?_ ?_ now turn).runs.imp fun _ _ h => h.2
  · exact fun before call => (obliging_answers before call).imp fun _ h => h.imp fun _ h => h.1
  · exact fun u before after hbecomes => u.rank_le (punctual_becomes hbecomes)
  · exact fun u before answer after helapses => u.rank_receive helapses

theorem attains_obliging (now : Instant) (turn : Turn Underway Result) :
    machine.Attains obliging now turn fun exchanges result =>
      machine.Runs turn exchanges result ∧ ∃ last, obliging.Admits now exchanges last := by
  have hattains : machine.Attains obliging now turn fun _ _ => True :=
    ((attains now turn).imp fun _ _ _ => trivial).restrict (fun _ _ => obliging_acts)
      (fun _ _ _ _ => obliging_elapses) obliging_answers
  exact hattains.runs.imp fun _ _ h => h.2

end Operation.Underway

end ClockWarden.Supervisor
