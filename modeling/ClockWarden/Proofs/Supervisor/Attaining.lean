import ClockWarden.Proofs.Host.Punctual
import ClockWarden.Proofs.Supervisor.Running

/-! Activities that come to an end. `Machine.Attains` says of an activity on a host that it ends after
finitely many calls, whichever of its answers the host gives, and what it has done by then. An activity
ends wherever each answer takes it to a state of lower rank (`attains_of_rank`), and what holds of all its
runs that the host admits is then attained (`Attains.runs`). -/

namespace ClockWarden.Supervisor

open Host

variable {World State Result : Type}

namespace Machine

/-- However the host answers, and whatever it does by itself, an activity goes on until it ends, and the
calls that it has made and its result meet a goal then. -/
inductive Attains (machine : Machine State Result) (behaviour : Behaviour World) :
    World → Turn State Result → (List Exchange → Result → Prop) → Prop
  | finish {world : World} {entries : List Log.Entry} {result : Result}
      {goal : List Exchange → Result → Prop} (meets : goal [] result) :
      Attains machine behaviour world (.finish entries result) goal
  | goOn {world : World} {entries : List Log.Entry} {state : State}
      {goal : List Exchange → Result → Prop}
      (answered : ∀ later, behaviour.Becomes world later →
        ∃ answer next, behaviour.answers later (machine.call state) answer next)
      (attains : ∀ later answer next, behaviour.Becomes world later →
        behaviour.answers later (machine.call state) answer next →
        Attains machine behaviour next (machine.receive state answer)
          fun exchanges => goal (⟨machine.call state, answer⟩ :: exchanges)) :
      Attains machine behaviour world (.goOn entries state) goal

variable {machine : Machine State Result} {behaviour : Behaviour World}

theorem Attains.imp {world : World} {turn : Turn State Result}
    {goal goal' : List Exchange → Result → Prop} (h : machine.Attains behaviour world turn goal)
    (himp : ∀ exchanges result, goal exchanges result → goal' exchanges result) :
    machine.Attains behaviour world turn goal' := by
  induction h generalizing goal' with
  | finish meets => exact .finish (himp _ _ meets)
  | goOn answered _ ih =>
      refine .goOn answered fun later answer next hbecomes hanswers => ?_
      exact ih later answer next hbecomes hanswers fun exchanges result => himp _ _

/-- An activity that ends has made one of its runs, with answers that the host admits. -/
theorem Attains.runs {world : World} {turn : Turn State Result} {goal : List Exchange → Result → Prop}
    (h : machine.Attains behaviour world turn goal) :
    machine.Attains behaviour world turn fun exchanges result =>
      goal exchanges result ∧ machine.Runs turn exchanges result ∧
        ∃ last, behaviour.Admits world exchanges last := by
  induction h with
  | finish meets => exact .finish ⟨meets, .finish, _, .nil .refl⟩
  | goOn answered _ ih =>
      refine .goOn answered fun later answer next hbecomes hanswers => ?_
      refine (ih later answer next hbecomes hanswers).imp ?_
      rintro exchanges result ⟨hgoal, hrun, last, hadmits⟩
      exact ⟨hgoal, .goOn hrun, last, .cons hbecomes hanswers hadmits⟩

/-- What an activity attains on a host it attains on each stricter one that still answers every call. -/
theorem Attains.restrict {strict : Behaviour World}
    (hacts : ∀ world world', strict.acts world world' → behaviour.acts world world')
    (hanswers : ∀ world call answer next, strict.answers world call answer next →
      behaviour.answers world call answer next)
    (hanswered : ∀ world call, ∃ answer next, strict.answers world call answer next)
    {world : World} {turn : Turn State Result} {goal : List Exchange → Result → Prop}
    (h : machine.Attains behaviour world turn goal) : machine.Attains strict world turn goal := by
  induction h with
  | finish meets => exact .finish meets
  | goOn _ _ ih =>
      refine .goOn (fun later _ => hanswered later _) fun later answer next hbecomes hstrict => ?_
      exact ih later answer next (Relation.ReflTransGen.mono hacts _ _ hbecomes)
        (hanswers _ _ _ _ hstrict)

/-- An activity comes to an end if each answer leads to a state of lower rank, and no rank is raised by
what the host does by itself. -/
theorem attains_of_rank (rank : State → World → Nat)
    (hanswered : ∀ world call, ∃ answer next, behaviour.answers world call answer next)
    (hacts : ∀ state world later, behaviour.Becomes world later → rank state later ≤ rank state world)
    (hfalls : ∀ state world (answer : (machine.call state).Answer) next,
      behaviour.answers world (machine.call state) answer next →
      (machine.receive state answer).Leads (fun after => rank after next < rank state world)
        fun _ => True)
    (world : World) (turn : Turn State Result) :
    machine.Attains behaviour world turn fun _ _ => True := by
  have hstate : ∀ bound entries state world, rank state world < bound →
      machine.Attains behaviour world (.goOn entries state) fun _ _ => True := by
    -- A bound on the rank is all that the induction needs to know about a state.
    intro bound
    induction bound with
    | zero => exact fun entries state world hrank => absurd hrank (Nat.not_lt_zero _)
    | succ bound ih =>
        intro entries state world hrank
        refine .goOn (fun later _ => hanswered later _) fun later answer next hbecomes hanswers => ?_
        have hlater := hacts state world later hbecomes
        have hleads := hfalls state later answer next hanswers
        cases hturn : machine.receive state answer with
        | finish entries result => exact .finish trivial
        | goOn entries after =>
            rw [hturn] at hleads
            have hafter : rank after next < rank state later := hleads
            exact ih entries after next (by omega)
  cases turn with
  | finish entries result => exact .finish trivial
  | goOn entries state => exact hstate _ entries state world (Nat.lt_succ_self _)

end Machine

end ClockWarden.Supervisor
