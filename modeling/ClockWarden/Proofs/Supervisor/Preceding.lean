import ClockWarden.Proofs.Supervisor.Running

/-! What comes before each exchange of a run. `Preceded` says of every exchange in a list how it stands to
those before it. An invariant of the exchanges so far and the state that they have led to says it of a
whole run, whether the run has come to its end or not (`Path.preceded`). -/

namespace ClockWarden.Supervisor

open Host

/-- Every exchange stands in a relation to the exchanges before it. -/
def Preceded (property : List Exchange → Exchange → Prop) (exchanges : List Exchange) : Prop :=
  ∀ before exchange after, exchanges = before ++ exchange :: after → property before exchange

namespace Preceded

variable {property property' : List Exchange → Exchange → Prop} {exchanges : List Exchange}

theorem nil : Preceded property [] := by
  intro before exchange after hsplit
  cases before <;> cases hsplit

theorem concat (h : Preceded property exchanges) {last : Exchange} (hlast : property exchanges last) :
    Preceded property (exchanges ++ [last]) := by
  intro before exchange after hsplit
  rcases List.eq_nil_or_concat after with rfl | ⟨between, final, rfl⟩
  · obtain ⟨rfl, hexchange⟩ := List.append_inj' hsplit rfl
    cases hexchange
    exact hlast
  · rw [List.concat_eq_append, ← List.cons_append, ← List.append_assoc] at hsplit
    exact h before exchange between (List.append_inj' hsplit rfl).1

theorem imp (h : Preceded property exchanges)
    (himp : ∀ before exchange, property before exchange → property' before exchange) :
    Preceded property' exchanges :=
  fun before exchange after hsplit => himp before exchange (h before exchange after hsplit)

end Preceded

namespace Machine

variable {State Result : Type} {machine : Machine State Result}

theorem Path.of_nil {first turn : Turn State Result} (h : machine.Path first [] turn) : turn = first := by
  generalize hall : [] = all at h
  cases h with
  | here => rfl
  | step path answer => exact absurd hall.symm (List.append_ne_nil_of_right_ne_nil _ (List.cons_ne_nil _ _))

/-- The run that is left after the first answer. -/
theorem Path.of_cons {first turn : Turn State Result} {exchange : Exchange} {exchanges : List Exchange}
    (h : machine.Path first (exchange :: exchanges) turn) :
    ∃ entries state, ∃ answer : (machine.call state).Answer, first = .goOn entries state ∧
      exchange = ⟨machine.call state, answer⟩ ∧
      machine.Path (machine.receive state answer) exchanges turn := by
  generalize hall : exchange :: exchanges = all at h
  induction h generalizing exchanges with
  | here => cases hall
  | @step before entries state path answer ih =>
      cases before with
      | nil =>
          cases hall
          exact ⟨entries, state, answer, path.of_nil.symm, rfl, .here⟩
      | cons earlier before =>
          cases hall
          obtain ⟨entries', state', answer', hfirst, hexchange, hrest⟩ := ih rfl
          exact ⟨entries', state', answer', hfirst, hexchange, hrest.step answer⟩

/-- What every answer keeps of the exchanges so far and the state holds all the way. -/
theorem Path.preceded {holds : List Exchange → State → Prop} {last : List Exchange → Result → Prop}
    {property : List Exchange → Exchange → Prop}
    (hkeeps : ∀ seen state (answer : (machine.call state).Answer), holds seen state →
      property seen ⟨machine.call state, answer⟩ ∧
        (machine.receive state answer).Leads (holds (seen ++ [⟨machine.call state, answer⟩]))
          (last (seen ++ [⟨machine.call state, answer⟩])))
    {first turn : Turn State Result} {exchanges : List Exchange}
    (h : machine.Path first exchanges turn) (hfirst : first.Leads (holds []) (last [])) :
    turn.Leads (holds exchanges) (last exchanges) ∧ Preceded property exchanges := by
  induction h with
  | here => exact ⟨hfirst, Preceded.nil⟩
  | @step exchanges entries state path answer ih =>
      obtain ⟨hstate, hbefore⟩ := ih
      obtain ⟨hproperty, hleads⟩ := hkeeps exchanges state answer hstate
      exact ⟨hleads, hbefore.concat hproperty⟩

end Machine

end ClockWarden.Supervisor
