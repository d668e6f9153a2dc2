import ClockWarden.Proofs.Host.Exchange
import ClockWarden.Supervisor.Machine

/-! Runs of activities. `Turn.Leads` says what holds of whatever a turn leads to, and
`Machine.Runs` relates the first turn of an activity to the calls that it makes until it ends. A run of
a whole splits into a run of its part and a run of what follows (`Runs.of_within`). -/

namespace ClockWarden.Supervisor

open Host

variable {State Result Outer Last : Type}

namespace Turn

/-- What a turn leads to has a property: the next state, or the result. -/
def Leads (next : State → Prop) (last : Result → Prop) : Turn State Result → Prop
  | .goOn _ state => next state
  | .finish _ result => last result

variable {next : State → Prop} {last : Result → Prop}

@[simp] theorem leads_goOn (entries : List Log.Entry) (state : State) :
    (Turn.goOn entries state).Leads next last ↔ next state := Iff.rfl

@[simp] theorem leads_finish (entries : List Log.Entry) (result : Result) :
    (Turn.finish entries result).Leads next last ↔ last result := Iff.rfl

@[simp] theorem leads_after (earlier : List Log.Entry) (turn : Turn State Result) :
    (turn.after earlier).Leads next last ↔ turn.Leads next last := by
  cases turn <;> rfl

@[simp] theorem leads_within {embed : State → Outer} {follow : Result → Turn Outer Last}
    {next : Outer → Prop} {last : Last → Prop} (turn : Turn State Result) :
    (turn.within embed follow).Leads next last ↔
      turn.Leads (fun state => next (embed state)) (fun result => (follow result).Leads next last) := by
  cases turn with
  | goOn entries state => rfl
  | finish entries result => exact leads_after entries (follow result)

theorem Leads.imp {next' : State → Prop} {last' : Result → Prop} {turn : Turn State Result}
    (h : turn.Leads next last) (hnext : ∀ state, next state → next' state)
    (hlast : ∀ result, last result → last' result) : turn.Leads next' last' := by
  cases turn with
  | goOn entries state => exact hnext state h
  | finish entries result => exact hlast result h

theorem Leads.and {next' : State → Prop} {last' : Result → Prop} {turn : Turn State Result}
    (h : turn.Leads next last) (h' : turn.Leads next' last') :
    turn.Leads (fun state => next state ∧ next' state) (fun result => last result ∧ last' result) := by
  cases turn <;> exact ⟨h, h'⟩

end Turn

namespace Machine

/-- A run of an activity from a turn to its end: the calls that it makes, with their answers, and what
it ends with. -/
inductive Runs (machine : Machine State Result) :
    Turn State Result → List Exchange → Result → Prop
  | finish {entries : List Log.Entry} {result : Result} :
      Runs machine (.finish entries result) [] result
  | goOn {entries : List Log.Entry} {state : State} {answer : (machine.call state).Answer}
      {exchanges : List Exchange} {result : Result} :
      Runs machine (machine.receive state answer) exchanges result →
      Runs machine (.goOn entries state) (⟨machine.call state, answer⟩ :: exchanges) result

variable {machine : Machine State Result} {whole : Machine Outer Last}

theorem Runs.of_after (earlier : List Log.Entry) {turn : Turn State Result}
    {exchanges : List Exchange} {result : Result}
    (h : machine.Runs (turn.after earlier) exchanges result) : machine.Runs turn exchanges result := by
  cases turn with
  | goOn entries state =>
      cases h with
      | goOn h => exact .goOn h
  | finish entries last =>
      cases h
      exact .finish

/-- What holds of each state holds at the end of a run, if every answer that the run is given keeps it. -/
theorem Runs.leads {holds : State → Prop} {last : Result → Prop} {admits : Exchange → Prop}
    (hkeeps : ∀ state (answer : (machine.call state).Answer), holds state →
      admits ⟨machine.call state, answer⟩ → (machine.receive state answer).Leads holds last)
    {turn : Turn State Result} {exchanges : List Exchange} {result : Result}
    (h : machine.Runs turn exchanges result) (hadmits : ∀ exchange ∈ exchanges, admits exchange)
    (hturn : turn.Leads holds last) : last result := by
  induction h with
  | finish => exact hturn
  | goOn _ ih =>
      rw [List.forall_mem_cons] at hadmits
      exact ih hadmits.2 (hkeeps _ _ hturn hadmits.1)

/-- A run of an activity that has not come to its end: the calls made so far, with their answers, and
the turn that they have led to. -/
inductive Path (machine : Machine State Result) (first : Turn State Result) :
    List Exchange → Turn State Result → Prop
  | here : Path machine first [] first
  | step {exchanges : List Exchange} {entries : List Log.Entry} {state : State}
      (path : Path machine first exchanges (.goOn entries state))
      (answer : (machine.call state).Answer) :
      Path machine first (exchanges ++ [⟨machine.call state, answer⟩]) (machine.receive state answer)

/-- What is left of a run completes it. -/
theorem Path.runs {first turn : Turn State Result} {before after : List Exchange} {result : Result}
    (h : machine.Path first before turn) (hrest : machine.Runs turn after result) :
    machine.Runs first (before ++ after) result := by
  induction h generalizing after with
  | here => exact hrest
  | step path answer ih =>
      rw [List.append_assoc]
      exact ih (.goOn hrest)

theorem Path.runs_of_finish {first : Turn State Result} {exchanges : List Exchange}
    {entries : List Log.Entry} {result : Result}
    (h : machine.Path first exchanges (.finish entries result)) :
    machine.Runs first exchanges result := by
  have hruns := h.runs .finish
  rw [List.append_nil] at hruns
  exact hruns

theorem Path.cons {entries : List Log.Entry} {state : State} {answer : (machine.call state).Answer}
    {exchanges : List Exchange} {turn : Turn State Result}
    (h : machine.Path (machine.receive state answer) exchanges turn) :
    machine.Path (.goOn entries state) (⟨machine.call state, answer⟩ :: exchanges) turn := by
  induction h with
  | here => exact .step .here answer
  | step _ other ih => exact ih.step other

theorem Runs.path {turn : Turn State Result} {exchanges : List Exchange} {result : Result}
    (h : machine.Runs turn exchanges result) :
    ∃ entries, machine.Path turn exchanges (.finish entries result) := by
  induction h with
  | finish => exact ⟨_, .here⟩
  | goOn _ ih =>
      obtain ⟨entries, hpath⟩ := ih
      exact ⟨entries, hpath.cons⟩

/-- What every answer keeps holds all the way, and of each state in which a call was made. -/
theorem Path.leads {holds : State → Prop} {last : Result → Prop}
    (hkeeps : ∀ state (answer : (machine.call state).Answer), holds state →
      (machine.receive state answer).Leads holds last)
    {first turn : Turn State Result} {exchanges : List Exchange}
    (h : machine.Path first exchanges turn) (hfirst : first.Leads holds last) :
    turn.Leads holds last ∧
      ∀ exchange ∈ exchanges, ∃ state, holds state ∧ exchange.call = machine.call state := by
  induction h with
  | here => exact ⟨hfirst, fun exchange hmem => (by cases hmem)⟩
  | @step exchanges entries state path answer ih =>
      obtain ⟨hstate, hbefore⟩ := ih
      refine ⟨hkeeps state answer hstate, ?_⟩
      intro exchange hmem
      rcases List.mem_append.mp hmem with hmem | hmem
      · exact hbefore exchange hmem
      · rw [List.mem_singleton.mp hmem]
        exact ⟨state, hstate, rfl⟩

/-- Whatever all calls of a machine have in common, the exchanges of its runs have. -/
theorem Runs.calls (holds : Call → Prop) (hcalls : ∀ state, holds (machine.call state))
    {turn : Turn State Result} {exchanges : List Exchange} {result : Result}
    (h : machine.Runs turn exchanges result) : ∀ exchange ∈ exchanges, holds exchange.call := by
  induction h with
  | finish => exact fun exchange hmem => (by cases hmem)
  | goOn _ ih => exact List.forall_mem_cons.mpr ⟨hcalls _, ih⟩

/-- A machine that passes the calls of a part on, and turns the part's turns into turns of its own. -/
def Carries (whole : Machine Outer Last) (part : Machine State Result) (embed : State → Outer)
    (follow : Result → Turn Outer Last) : Prop :=
  ∀ state (answer : (whole.call (embed state)).Answer), ∃ answer' : (part.call state).Answer,
    (⟨whole.call (embed state), answer⟩ : Exchange) = ⟨part.call state, answer'⟩ ∧
    whole.receive (embed state) answer = (part.receive state answer').within embed follow

/-- A run of the whole begins with a run of the part. -/
theorem Runs.of_within {embed : State → Outer} {follow : Result → Turn Outer Last}
    (hcarries : whole.Carries machine embed follow) {turn : Turn State Result}
    {exchanges : List Exchange} {last : Last}
    (h : whole.Runs (turn.within embed follow) exchanges last) :
    ∃ before result after, exchanges = before ++ after ∧ machine.Runs turn before result ∧
      whole.Runs (follow result) after last := by
  generalize hturn : turn.within embed follow = outer at h
  induction h generalizing turn with
  | finish =>
      cases turn with
      | goOn entries state => cases hturn
      | finish entries result =>
          refine ⟨[], result, [], rfl, .finish, ?_⟩
          refine Runs.of_after entries ?_
          rw [show (follow result).after entries = _ from hturn]
          exact .finish
  | @goOn entries outer answer exchanges last hrun ih =>
      cases turn with
      | goOn inner state =>
          cases hturn
          obtain ⟨answer', hexchange, hreceive⟩ := hcarries state answer
          obtain ⟨before, result, after, rfl, hpart, hrest⟩ := ih hreceive.symm
          refine ⟨⟨machine.call state, answer'⟩ :: before, result, after, ?_, .goOn hpart, hrest⟩
          rw [hexchange, List.cons_append]
      | finish inner result =>
          refine ⟨[], result, _, rfl, .finish, ?_⟩
          refine Runs.of_after inner ?_
          rw [show (follow result).after inner = _ from hturn]
          exact .goOn hrun

end Machine

end ClockWarden.Supervisor
