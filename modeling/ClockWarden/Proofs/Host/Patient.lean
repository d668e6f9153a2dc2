import ClockWarden.Proofs.Host.Punctual

/-! Hosts that keep time. On a patient host time passes as on a punctual one, and a wait with a deadline is
not given up before it; whom it waits for, which signals it lets through and what it finds is left open.
What was answered has been answered by the time that the next call is made (`Admits.exists_of_mem`). -/

namespace ClockWarden.Host

theorem Instant.nanos_of_after {now deadline : Instant} {grace : Duration}
    (h : now.after? grace = some deadline) : now.nanos + grace.nanos = deadline.nanos := by
  unfold Instant.after? at h
  split at h
  · cases h
    rfl
  · cases h

/-- A wait that comes to nothing has lasted until its deadline. -/
def Lasts (after : Instant) : (call : Call) → call.Answer → Prop
  | .awaitExitUntil _ deadline, answer =>
    (answer : Option (Except Error ExitStatus)) = none → deadline ≤ after
  | _, _ => True

def patient : Behaviour Instant where
  begins := ⟨0⟩
  acts := (· ≤ ·)
  answers before call answer after := Elapses before after call answer ∧ Lasts after call answer

theorem patient_becomes {before after : Instant} (h : patient.Becomes before after) : before ≤ after :=
  punctual_becomes h

namespace Behaviour

theorem Admits.le {start moment : Instant} {exchanges : List Exchange}
    (h : patient.Admits start exchanges moment) : start ≤ moment := by
  induction h with
  | nil becomes => exact patient_becomes becomes
  | cons becomes answers _ ih =>
      exact Instant.le_trans (patient_becomes becomes) (Instant.le_trans answers.1.le ih)

/-- Each of the exchanges is over by the moment that they lead to. -/
theorem Admits.exists_of_mem {start moment : Instant} {exchanges : List Exchange}
    (h : patient.Admits start exchanges moment) :
    ∀ exchange ∈ exchanges, ∃ before after, patient.answers before exchange.call exchange.answer after ∧
      start ≤ before ∧ after ≤ moment := by
  induction h with
  | nil becomes => exact fun exchange hmem => (by cases hmem)
  | cons becomes answers rest ih =>
      have hbefore := patient_becomes becomes
      intro exchange hmem
      rcases List.mem_cons.mp hmem with rfl | hmem
      · exact ⟨_, _, answers, hbefore, rest.le⟩
      · obtain ⟨before, after, hanswers, hstart, hlast⟩ := ih exchange hmem
        exact ⟨before, after, hanswers,
          Instant.le_trans hbefore (Instant.le_trans answers.1.le hstart), hlast⟩

/-- A clock that has been read shows no later time than it is. -/
theorem Admits.reading {start moment : Instant} {exchanges : List Exchange}
    (h : patient.Admits start exchanges moment) {now : Instant}
    (hmem : (⟨.readClock, now⟩ : Exchange) ∈ exchanges) : start ≤ now ∧ now ≤ moment := by
  obtain ⟨before, after, ⟨⟨hle, rfl⟩, -⟩, hstart, hlast⟩ := h.exists_of_mem _ hmem
  exact ⟨Instant.le_trans hstart hle, hlast⟩

/-- A wait that came to nothing has lasted until its deadline. -/
theorem Admits.lasted {start moment : Instant} {exchanges : List Exchange}
    (h : patient.Admits start exchanges moment) {pid : Pid} {deadline : Instant}
    (hmem : (⟨.awaitExitUntil pid deadline, (none : Option (Except Error ExitStatus))⟩ : Exchange) ∈
      exchanges) : deadline ≤ moment := by
  obtain ⟨before, after, ⟨-, hlasts⟩, -, hlast⟩ := h.exists_of_mem _ hmem
  exact Instant.le_trans (hlasts rfl) hlast

end Behaviour

end ClockWarden.Host
