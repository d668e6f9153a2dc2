import ClockWarden.Proofs.Host.Exchange
import Mathlib.Logic.Relation

/-! Hosts that can be relied on. On a punctual host time only passes, every call is answered, and a sleep
is as long as was asked for; an obliging host also starts every process, waits for every child to its
end, and lets every signal through unless there is nobody to receive it. What such a host is left to
decide is all that a program may not count on, so a law that holds there holds on each host that keeps
these promises. -/

namespace ClockWarden.Host

variable {World : Type}

namespace Behaviour

/-- How a host may stand after a while in which it is asked for nothing. -/
def Becomes (behaviour : Behaviour World) : World → World → Prop := Relation.ReflTransGen behaviour.acts

/-- A host may give these answers one after another, and stand so after them. -/
inductive Admits (behaviour : Behaviour World) : World → List Exchange → World → Prop
  | nil {world later : World} (becomes : behaviour.Becomes world later) : Admits behaviour world [] later
  | cons {world later next last : World} {call : Call} {answer : call.Answer}
      {exchanges : List Exchange} (becomes : behaviour.Becomes world later)
      (answers : behaviour.answers later call answer next) (rest : Admits behaviour next exchanges last) :
      Admits behaviour world (⟨call, answer⟩ :: exchanges) last

variable {behaviour : Behaviour World}

theorem Admits.of_becomes {world later last : World} {exchanges : List Exchange}
    (h : behaviour.Admits later exchanges last) (becomes : behaviour.Becomes world later) :
    behaviour.Admits world exchanges last := by
  cases h with
  | nil hlast => exact .nil (becomes.trans hlast)
  | cons hlater answers rest => exact .cons (becomes.trans hlater) answers rest

/-- What holds of every exchange that a host has a part in holds of all that it admits. -/
theorem Admits.forall {property : Exchange → Prop}
    (hanswers : ∀ world call answer next, behaviour.answers world call answer next →
      property ⟨call, answer⟩)
    {world last : World} {exchanges : List Exchange} (h : behaviour.Admits world exchanges last) :
    ∀ exchange ∈ exchanges, property exchange := by
  induction h with
  | nil becomes => exact fun exchange hmem => (by cases hmem)
  | cons becomes answers rest ih =>
      intro exchange hmem
      rcases List.mem_cons.mp hmem with rfl | hmem
      · exact hanswers _ _ _ _ answers
      · exact ih exchange hmem

end Behaviour

/-! ### Time -/

theorem Instant.le_trans {s t u : Instant} (hst : s ≤ t) (htu : t ≤ u) : s ≤ u :=
  Nat.le_trans (show s.nanos ≤ t.nanos from hst) (show t.nanos ≤ u.nanos from htu)

/-- The time that a call takes. The clock is read as it stands, and any call but a sleep may take as long
as it likes. -/
def Elapses (before after : Instant) : (call : Call) → call.Answer → Prop
  | .readClock, now => before ≤ after ∧ now = after
  | .sleep length, _ => before.nanos + length.nanos ≤ after.nanos
  | _, _ => before ≤ after

def punctual : Behaviour Instant where
  begins := ⟨0⟩
  acts := (· ≤ ·)
  answers before call answer after := Elapses before after call answer

theorem punctual_becomes {before after : Instant} (h : punctual.Becomes before after) :
    before ≤ after := by
  induction h with
  | refl => exact Nat.le_refl before.nanos
  | tail _ hacts ih => exact Instant.le_trans ih hacts

theorem Elapses.le {before after : Instant} {call : Call} {answer : call.Answer}
    (h : Elapses before after call answer) : before ≤ after := by
  cases call with
  | readClock => exact h.1
  | sleep length =>
      have hslept : before.nanos + length.nanos ≤ after.nanos := h
      exact Nat.le_trans (Nat.le_add_right _ _) hslept
  | _ => exact h

/-! ### Readiness -/

/-- An answer that stands in nobody's way. Nothing is said about a look at a child, which may find that
it runs, that it has ended, or that there is none. -/
def Grants : (call : Call) → call.Answer → Prop
  | .spawn _, answer => ∃ pid, (answer : Except Error Pid) = .ok pid
  | .signalGroup .., answer | .probeGroup _, answer =>
    (answer : Except Errno Unit) = .ok () ∨ (answer : Except Errno Unit) = .error Errno.noSuchProcess
  | .awaitExit _, answer => ∃ status, (answer : Except Error ExitStatus) = .ok status
  | .awaitExitUntil .., answer =>
    ∀ cause, (answer : Option (Except Error ExitStatus)) ≠ some (.error cause)
  | _, _ => True

def Exchange.Granted (exchange : Exchange) : Prop := Grants exchange.call exchange.answer

/-- A punctual host that does what it is asked to. -/
def obliging : Behaviour Instant where
  begins := ⟨0⟩
  acts := (· ≤ ·)
  answers before call answer after := Elapses before after call answer ∧ Grants call answer

theorem obliging_acts {before after : Instant} (h : obliging.acts before after) :
    punctual.acts before after := h

theorem obliging_elapses {before after : Instant} {call : Call} {answer : call.Answer}
    (h : obliging.answers before call answer after) : punctual.answers before call answer after := h.1

theorem obliging_grants {before after : Instant} {call : Call} {answer : call.Answer}
    (h : obliging.answers before call answer after) : Exchange.Granted ⟨call, answer⟩ := h.2

theorem obliging_answers (before : Instant) (call : Call) :
    ∃ answer after, obliging.answers before call answer after := by
  have hnow : before ≤ before := Nat.le_refl before.nanos
  cases call with
  | readClock => exact ⟨before, before, ⟨hnow, rfl⟩, trivial⟩
  | readDate => exact ⟨⟨⟨2024, 2, 29, by decide⟩, ⟨0, 0, by decide⟩⟩, before, hnow, trivial⟩
  | inherit => exact ⟨Environment.empty, before, hnow, trivial⟩
  | spawn command => exact ⟨(.ok 7 : Except Error Pid), before, hnow, 7, rfl⟩
  | signalGroup group signal => exact ⟨(.ok () : Except Errno Unit), before, hnow, Or.inl rfl⟩
  | probeGroup group => exact ⟨(.ok () : Except Errno Unit), before, hnow, Or.inl rfl⟩
  | pollExit pid => exact ⟨(.ok none : Except Error (Option ExitStatus)), before, hnow, trivial⟩
  | awaitExit pid =>
      exact ⟨(.ok (.exited 0) : Except Error ExitStatus), before, hnow, .exited 0, rfl⟩
  | awaitExitUntil pid deadline =>
      exact ⟨(none : Option (Except Error ExitStatus)), before, hnow, fun cause h => (by cases h)⟩
  | sleep length => exact ⟨(), ⟨before.nanos + length.nanos⟩, Nat.le_refl _, trivial⟩
  | abandon pid => exact ⟨(), before, hnow, trivial⟩
  | listen address => exact ⟨(.ok address : Except Error Net.SocketAddress), before, hnow, trivial⟩
  | nextEvent => exact ⟨.signal .terminate, before, hnow, trivial⟩
  | respond response => exact ⟨(), before, hnow, trivial⟩

end ClockWarden.Host
