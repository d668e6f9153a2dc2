import ClockWarden.Proofs.Supervisor.Endings
import ClockWarden.Proofs.Supervisor.Refusals
import Mathlib.Algebra.Order.Floor.Div

/-! How the rest of a group is waited for once its leader has been reaped. The group is looked at, the clock is
read, and some time is let pass, until a look finds the group empty or the clock shows the deadline (`Polls`).
On a host that tells at each look whether the group has members, this ends after as many rests as fit into
the time that is left, and what it tells is true of the last look (`polls_truthfully`). -/

namespace ClockWarden

namespace Host

/-- What a look at a group is answered: whether the group has members at some time of the look. -/
def Shows (group : Pid) (peopled : Instant → Prop) (before after : Instant) :
    (call : Call) → call.Answer → Prop
  | .probeGroup looked, answer => looked = group → ∃ moment, before ≤ moment ∧ moment ≤ after ∧
      ((answer : Except Errno Unit) = .ok () ∧ peopled moment ∨
        (answer : Except Errno Unit) = .error Errno.noSuchProcess ∧ ¬peopled moment)
  | _, _ => True

/-- A punctual host on which a group has members at some times and none at all others. -/
def populated (group : Pid) (peopled : Instant → Prop) : Behaviour Instant where
  begins := ⟨0⟩
  acts := (· ≤ ·)
  answers before call answer after :=
    Elapses before after call answer ∧ Shows group peopled before after call answer

/-- A call that lets time pass. -/
def Call.isSleep : Call → Bool
  | .sleep _ => true
  | _ => false

variable {group : Pid} {peopled : Instant → Prop}

theorem populated_becomes {before after : Instant} (h : (populated group peopled).Becomes before after) :
    before ≤ after := punctual_becomes h

theorem populated_answers (before : Instant) (call : Call) :
    ∃ answer after, (populated group peopled).answers before call answer after := by
  have hnow : before ≤ before := Nat.le_refl before.nanos
  cases call with
  | probeGroup looked =>
      by_cases hpeopled : peopled before
      · exact ⟨(.ok () : Except Errno Unit), before, hnow,
          fun _ => ⟨before, hnow, hnow, Or.inl ⟨rfl, hpeopled⟩⟩⟩
      · exact ⟨(.error Errno.noSuchProcess : Except Errno Unit), before, hnow,
          fun _ => ⟨before, hnow, hnow, Or.inr ⟨rfl, hpeopled⟩⟩⟩
  | _ =>
      obtain ⟨answer, after, helapses, -⟩ := obliging_answers before _
      exact ⟨answer, after, helapses, trivial⟩

theorem populated_admits_le {start last : Instant} {exchanges : List Exchange}
    (h : (populated group peopled).Admits start exchanges last) : start ≤ last := by
  induction h with
  | nil becomes => exact populated_becomes becomes
  | cons becomes answers _ ih =>
      exact Instant.le_trans (populated_becomes becomes) (Instant.le_trans answers.1.le ih)

theorem Behaviour.Admits.of_cons {World : Type} {behaviour : Behaviour World} {world last : World}
    {exchange : Exchange} {exchanges : List Exchange}
    (h : behaviour.Admits world (exchange :: exchanges) last) :
    ∃ later next, behaviour.Becomes world later ∧
      behaviour.answers later exchange.call exchange.answer next ∧ behaviour.Admits next exchanges last := by
  cases h with
  | cons becomes answers rest => exact ⟨_, _, becomes, answers, rest⟩

theorem Behaviour.Admits.of_append {World : Type} {behaviour : Behaviour World} {world last : World}
    {before after : List Exchange} (h : behaviour.Admits world (before ++ after) last) :
    ∃ middle, behaviour.Admits world before middle ∧ behaviour.Admits middle after last := by
  induction before generalizing world with
  | nil => exact ⟨world, .nil .refl, h⟩
  | cons exchange before ih =>
      obtain ⟨later, next, hbecomes, hanswers, hrest⟩ := h.of_cons
      obtain ⟨middle, hbefore, hafter⟩ := ih hrest
      exact ⟨middle, .cons hbecomes hanswers hbefore, hafter⟩

end Host

namespace Supervisor.Termination

open Host

/-- A rest before the group is looked at again. -/
def rests : Exchange := ⟨.sleep pollInterval, ()⟩

/-- A poll of a group: its exchanges, and whether it tells that the group is gone. -/
inductive Polls (handle : Handle) (deadline : Instant) : List Exchange → Bool → Prop
  | empty (errno : Errno) : Polls handle deadline [lookFails handle errno] true
  | late {now : Instant} (late : deadline ≤ now) :
      Polls handle deadline [findsMembers handle, reads now] false
  | again {now : Instant} {polled : List Exchange} {gone : Bool} (early : ¬deadline ≤ now)
      (polls : Polls handle deadline polled gone) :
      Polls handle deadline (findsMembers handle :: reads now :: rests :: polled) gone

/-- What an attempt makes of a poll: a group that is gone is retired, any other is killed. -/
def followed (t : Termination) (status : ExitStatus) : Bool → Turn Termination Result
  | true => t.succeed status
  | false => (t.goOn (.clearing status)).after [t.outlived]

/-- An attempt that looks at the group polls it, and goes on as the poll tells. -/
theorem exists_polls {t : Termination} {deadline : Instant} {status : ExitStatus}
    {entries : List Log.Entry} {exchanges : List Exchange} {result : Result}
    (h : machine.Runs (.goOn entries { t with stage := .probing deadline status }) exchanges result) :
    ∃ polled gone rest, exchanges = polled ++ rest ∧ Polls t.handle deadline polled gone ∧
      machine.Runs (t.followed status gone) rest result := by
  obtain ⟨handle, grace, stage⟩ := t
  -- Each round leaves fewer exchanges to be made.
  induction hlength : exchanges.length using Nat.strong_induction_on generalizing entries exchanges with
  | h n ih =>
      cases h with
      | @goOn _ _ found exchanges _ hlooked =>
      rcases found with errno | ⟨⟩
      · exact ⟨[lookFails handle errno], true, exchanges, rfl, .empty errno, hlooked⟩
      · cases hlooked with
        | @goOn _ _ now exchanges _ hread =>
        change machine.Runs (checked ⟨handle, grace, .checking deadline status⟩ deadline status now) _ _
          at hread
        unfold checked at hread
        split at hread
        · rename_i hlate
          exact ⟨[findsMembers handle, reads now], false, exchanges, rfl, .late hlate, hread⟩
        · rename_i hearly
          cases hread with
          | @goOn _ _ answer exchanges _ hrested =>
          obtain ⟨polled, gone, rest, rfl, hpolls, hrest⟩ :=
            ih exchanges.length (by simp only [List.length_cons] at hlength; omega) hrested rfl
          exact ⟨findsMembers handle :: reads now :: rests :: polled, gone, rest, rfl, .again hearly hpolls,
            hrest⟩

/-! ### What a poll tells -/

/-- What a look at a group has found. -/
def look? : Exchange → Option (Except Errno Unit)
  | ⟨.probeGroup _, answer⟩ => some answer
  | _ => none

/-- What the last look has found. -/
def lastLook? (exchanges : List Exchange) : Option (Except Errno Unit) :=
  (exchanges.filterMap look?).getLast?

/-- How often time is let pass. -/
def countSleeps (exchanges : List Exchange) : Nat :=
  exchanges.countP fun exchange => exchange.call.isSleep

namespace Polls

variable {handle : Handle} {deadline start last : Instant} {peopled : Instant → Prop}
  {polled : List Exchange} {gone : Bool}

/-- No time is let pass after the clock has shown the deadline. -/
theorem pairwise (h : Polls handle deadline polled gone) :
    polled.Pairwise fun earlier later =>
      later.call.isSleep = true → ∀ now, earlier = reads now → ¬deadline ≤ now := by
  induction h with
  | empty errno => exact List.pairwise_singleton _ _
  | late hlate =>
      refine List.pairwise_pair.mpr fun _ now hreads => ?_
      cases hreads
  | @again shown polled gone hearly _ ih =>
      refine List.pairwise_cons.mpr ⟨fun _ _ _ now hreads => ?_, ?_⟩
      · cases hreads
      · refine List.pairwise_cons.mpr ⟨fun _ _ _ now hreads => ?_, ?_⟩
        · cases hreads
          exact hearly
        · refine List.pairwise_cons.mpr ⟨fun _ _ _ now hreads => ?_, ih⟩
          cases hreads

/-- A poll that does not tell that the group is gone has read the clock right after a look that found
members, and the clock has shown the deadline. -/
theorem exists_late (h : Polls handle deadline polled gone) (hgone : gone = false) :
    ∃ before now, polled = before ++ [findsMembers handle, reads now] ∧ deadline ≤ now := by
  induction h with
  | empty errno => cases hgone
  | @late now hlate => exact ⟨[], now, rfl, hlate⟩
  | again _ _ ih =>
      obtain ⟨before, now, rfl, hlate⟩ := ih hgone
      exact ⟨_ :: _ :: _ :: before, now, rfl, hlate⟩

/-- All looks but the last find members. -/
theorem eq_ok_of_mem (h : Polls handle deadline polled gone) (hgone : gone = false)
    {found : Except Errno Unit} (hmem : (⟨.probeGroup handle.group, found⟩ : Exchange) ∈ polled) :
    found = .ok () := by
  induction h with
  | empty errno => cases hgone
  | late hlate =>
      rcases List.mem_pair.mp hmem with hlook | hlook
      · cases hlook
        rfl
      · cases hlook
  | again _ _ ih =>
      rcases List.mem_cons.mp hmem with hlook | hmem
      · cases hlook
        rfl
      · simp only [List.mem_cons] at hmem
        rcases hmem with hlook | hlook | hmem
        · cases hlook
        · cases hlook
        · exact ih hgone hmem

/-! ### On a host that tells whether the group has members -/

/-- A look at the group shows how it stands at some time of the look. -/
theorem exists_shown {found : Except Errno Unit}
    (h : (populated handle.group peopled).Admits start (⟨.probeGroup handle.group, found⟩ :: polled) last) :
    ∃ moment, start ≤ moment ∧ moment ≤ last ∧
      (found = .ok () ∧ peopled moment ∨ found = .error Errno.noSuchProcess ∧ ¬peopled moment) := by
  obtain ⟨later, next, hstart, ⟨-, hshows⟩, hrest⟩ := h.of_cons
  obtain ⟨moment, hlater, hnext, hshown⟩ := hshows rfl
  exact ⟨moment, Instant.le_trans (populated_becomes hstart) hlater,
    Instant.le_trans hnext (populated_admits_le hrest), hshown⟩

/-- A round takes as long as the rest in it. -/
theorem exists_next {now : Instant}
    (h : (populated handle.group peopled).Admits start
      (findsMembers handle :: reads now :: rests :: polled) last) :
    start ≤ now ∧ ∃ next, now.nanos + pollInterval.nanos ≤ next.nanos ∧
      (populated handle.group peopled).Admits next polled last := by
  obtain ⟨looking, looked, hstart, ⟨hlook, -⟩, h⟩ := h.of_cons
  obtain ⟨reading, read, hlooked, ⟨⟨hread, rfl⟩, -⟩, h⟩ := h.of_cons
  obtain ⟨resting, next, hrested, ⟨hrest, -⟩, h⟩ := h.of_cons
  have hslept : resting.nanos + pollInterval.nanos ≤ next.nanos := hrest
  refine ⟨?_, next, ?_, h⟩
  · exact Instant.le_trans (populated_becomes hstart)
      (Instant.le_trans hlook.le (Instant.le_trans (populated_becomes hlooked) hread))
  · exact Nat.le_trans (Nat.add_le_add_right (populated_becomes hrested) _) hslept

/-- A poll rests no more often than rests fit into the time that is left. -/
theorem countSleeps_le (h : Polls handle deadline polled gone)
    (hadmits : (populated handle.group peopled).Admits start polled last) :
    countSleeps polled ≤ remaining deadline start ⌈/⌉ pollInterval.nanos := by
  induction h generalizing start with
  | empty errno | late hlate => exact Nat.zero_le _
  | @again now polled gone hearly _ ih =>
      obtain ⟨hstart, next, hnext, hrest⟩ := exists_next hadmits
      have hcount : countSleeps (findsMembers handle :: reads now :: rests :: polled) =
          countSleeps polled + 1 := by
        simp [countSleeps, findsMembers, reads, rests, Call.isSleep]
      have hpast : start.nanos ≤ now.nanos := hstart
      have hleft : now.nanos < deadline.nanos := Nat.lt_of_not_le hearly
      have hbound := ih hrest
      rw [hcount]
      simp only [remaining, Nat.ceilDiv_eq_add_pred_div, show pollInterval.nanos = 20000000 from rfl] at *
      omega

/-- The last look finds what the poll tells, and the group stands so at some time of that look. -/
theorem lastLook?_eq (h : Polls handle deadline polled gone)
    (hadmits : (populated handle.group peopled).Admits start polled last) :
    lastLook? polled = some (if gone then .error Errno.noSuchProcess else .ok ()) ∧
      ∃ moment, start ≤ moment ∧ moment ≤ last ∧ (gone = false ↔ peopled moment) := by
  induction h generalizing start with
  | empty errno =>
      obtain ⟨moment, hstart, hlast, ⟨hfound, -⟩ | ⟨hfound, hgone⟩⟩ := exists_shown hadmits
      · cases hfound
      · cases hfound
        exact ⟨rfl, moment, hstart, hlast, by simp [hgone]⟩
  | late hlate =>
      obtain ⟨moment, hstart, hlast, ⟨-, hpeopled⟩ | ⟨hfound, -⟩⟩ := exists_shown hadmits
      · exact ⟨rfl, moment, hstart, hlast, by simp [hpeopled]⟩
      · cases hfound
  | @again now polled gone hearly _ ih =>
      obtain ⟨hstart, next, hnext, hrest⟩ := exists_next hadmits
      obtain ⟨hlook, moment, hmoment, hlast, hgone⟩ := ih hrest
      have hlater : start ≤ next := Instant.le_trans hstart (Nat.le_trans (Nat.le_add_right _ _) hnext)
      refine ⟨?_, moment, Instant.le_trans hlater hmoment, hlast, hgone⟩
      change ((.ok () : Except Errno Unit) :: polled.filterMap look?).getLast? = _
      rw [List.getLast?_cons, show (polled.filterMap look?).getLast? = _ from hlook]
      rfl

end Polls

/-- What is known of a poll that has begun at a time and has told whether the group is gone. -/
structure Truthful (handle : Handle) (deadline : Instant) (peopled : Instant → Prop) (start : Instant)
    (polled : List Exchange) (gone : Bool) : Prop where
  /-- No more rests are taken than fit into the time that is left until the deadline. -/
  sleeps : countSleeps polled ≤ remaining deadline start ⌈/⌉ pollInterval.nanos
  sleepless : deadline ≤ start → countSleeps polled = 0
  /-- No rest is taken after the clock has shown the deadline. -/
  awake : polled.Pairwise fun earlier later =>
    later.call.isSleep = true → ∀ now, earlier = reads now → ¬deadline ≤ now
  gone_iff : gone = true ↔ lastLook? polled = some (.error Errno.noSuchProcess)
  /-- A group that is told to be left was found at the last look, and the clock that was read right after it
  has shown the deadline. -/
  left : gone = false → lastLook? polled = some (.ok ()) ∧
    ∃ before now, polled = before ++ [findsMembers handle, reads now] ∧ deadline ≤ now
  /-- A group that has no members any more at any of the looks is told to be gone. -/
  noticed : ∀ before found after moment last,
    polled = before ++ ⟨.probeGroup handle.group, found⟩ :: after →
    (populated handle.group peopled).Admits moment (⟨.probeGroup handle.group, found⟩ :: after) last →
    (∀ later, moment ≤ later → ¬peopled later) → gone = true
  /-- The group stands as is told at some time of the poll. -/
  true_of : ∃ moment, start ≤ moment ∧ (gone = false ↔ peopled moment)

theorem Polls.truthful {handle : Handle} {deadline start last : Instant} {peopled : Instant → Prop}
    {polled : List Exchange} {gone : Bool} (h : Polls handle deadline polled gone)
    (hadmits : (populated handle.group peopled).Admits start polled last) :
    Truthful handle deadline peopled start polled gone where
  sleeps := h.countSleeps_le hadmits
  sleepless hlate := by
    have hnone : remaining deadline start = 0 := Nat.sub_eq_zero_of_le hlate
    have hsleeps := h.countSleeps_le hadmits
    rw [hnone, zero_ceilDiv] at hsleeps
    exact Nat.le_zero.mp hsleeps
  awake := h.pairwise
  gone_iff := by
    rw [(h.lastLook?_eq hadmits).1]
    cases gone <;> simp
  left hgone := by
    refine ⟨?_, h.exists_late hgone⟩
    rw [(h.lastLook?_eq hadmits).1, hgone]
    rfl
  noticed before found after moment last hsplit hlooks hempty := by
    by_contra hleft
    have hfound : found = .ok () := h.eq_ok_of_mem (Bool.not_eq_true _ ▸ hleft) (by rw [hsplit]; simp)
    obtain ⟨later, hlater, -, ⟨-, hpeopled⟩ | ⟨hgone, -⟩⟩ := Polls.exists_shown hlooks
    · exact hempty later hlater hpeopled
    · rw [hfound] at hgone
      cases hgone
  true_of := by
    obtain ⟨-, moment, hstart, -, hgone⟩ := h.lastLook?_eq hadmits
    exact ⟨moment, hstart, hgone⟩

/-- Once the leader of a group has been reaped, the rest of the group is polled until it is gone or the deadline
has come, whenever it has members and whenever it has none. -/
theorem polls_truthfully (t : Termination) (deadline : Instant) (status : ExitStatus)
    (peopled : Instant → Prop) (start : Instant) :
    machine.Attains (populated t.handle.group peopled) start (t.goOn (.probing deadline status))
      fun exchanges result => ∃ polled gone rest, exchanges = polled ++ rest ∧
        Polls t.handle deadline polled gone ∧ Truthful t.handle deadline peopled start polled gone ∧
        machine.Runs (t.followed status gone) rest result := by
  have hattains : machine.Attains (populated t.handle.group peopled) start
      (t.goOn (.probing deadline status)) fun _ _ => True := by
    refine Machine.attains_of_rank rank populated_answers ?_ ?_ start _
    · exact fun other before after hbecomes => other.rank_le (populated_becomes hbecomes)
    · exact fun other before answer after hanswers => other.rank_receive hanswers.1
  refine hattains.runs.imp fun exchanges result ⟨_, hruns, last, hadmits⟩ => ?_
  obtain ⟨polled, gone, rest, rfl, hpolls, hrest⟩ := exists_polls hruns
  obtain ⟨middle, hpolled, -⟩ := hadmits.of_append
  exact ⟨polled, gone, rest, rfl, hpolls, hpolls.truthful hpolled, hrest⟩

end Supervisor.Termination

end ClockWarden
