import ClockWarden.Proofs.Service.Serving

/-! The control endpoint in front of a supervisor. `Control.serve` is written for whatever restarts a
process and tells its status. Here that is a supervisor with its host: a relation tells what may come of it
(`Conduct`), and a request is then served as the operation that it asks for, with the response that its
reply calls for, or without any exchange at all (`serve_of_operation`, `serve_of_answered`). -/

namespace ClockWarden

namespace Service

open Host Supervisor Control

/-- What may come of something that has a supervisor to itself: the supervisor that it finds, the exchanges
with the host, its answer unless it breaks off, and the supervisor that it leaves. -/
def Conduct (α : Type) : Type := Warden → List Exchange → Option α → Warden → Prop

namespace Conduct

variable {α β : Type} {s s' : Warden} {exchanges : List Exchange}

instance : Monad Conduct where
  pure a s exchanges answer s' := exchanges = [] ∧ answer = some a ∧ s' = s
  bind conduct next s exchanges answer s' :=
    answer = none ∧ conduct s exchanges none s' ∨
      ∃ a between before after, exchanges = before ++ after ∧ conduct s before (some a) between ∧
        next a between after answer s'

theorem pure_iff {a : α} {answer : Option α} :
    (pure a : Conduct α) s exchanges answer s' ↔ exchanges = [] ∧ answer = some a ∧ s' = s := Iff.rfl

theorem map_iff {conduct : Conduct α} {convert : α → β} {answer : Option β} :
    (do let a ← conduct; pure (convert a) : Conduct β) s exchanges answer s' ↔
      ∃ given, conduct s exchanges given s' ∧ answer = given.map convert := by
  constructor
  · rintro (⟨rfl, hconduct⟩ | ⟨a, between, before, after, rfl, hconduct, rfl, rfl, rfl⟩)
    · exact ⟨none, hconduct, rfl⟩
    · rw [List.append_nil]
      exact ⟨some a, hconduct, rfl⟩
  · rintro ⟨given, hconduct, rfl⟩
    cases given with
    | none => exact Or.inl ⟨rfl, hconduct⟩
    | some a => exact Or.inr ⟨a, s', exchanges, [], (List.append_nil _).symm, hconduct, rfl, rfl, rfl⟩

def silent (_ : Log.Entry) : Conduct Unit := pure ()

theorem silent_bind_iff {entry : Log.Entry} {next : Conduct α} {answer : Option α} :
    (do silent entry; next : Conduct α) s exchanges answer s' ↔ next s exchanges answer s' := by
  constructor
  · rintro (⟨-, -, hbroken, -⟩ | ⟨_, between, before, after, rfl, ⟨rfl, -, rfl⟩, hnext⟩)
    · cases hbroken
    · exact hnext
  · exact fun hnext => Or.inr ⟨(), s, [], exchanges, rfl, ⟨rfl, rfl, rfl⟩, hnext⟩

/-- An operation, as far as its reply is an answer. -/
def ofOperation (operation : Operation) (answer? : Operation.Reply → Option α) : Conduct α :=
  fun s exchanges answer s' =>
    ∃ reply, Operation.Underway.machine.Runs (operation.start s) exchanges (s', reply) ∧
      answer = answer? reply

end Conduct

end Service

namespace Supervisor.Operation.Reply

def launched? : Reply → Option (Except Failure Confirmation)
  | .launched result => some result
  | _ => none

def told? : Reply → Option Status
  | .told status => some status
  | _ => none

end Supervisor.Operation.Reply

namespace Service

open Host Supervisor Control

/-- A supervisor as what serves the requests. -/
def supervised : TimeControl Conduct where
  restartWith request := .ofOperation (.restartWith request) Operation.Reply.launched?
  status := .ofOperation .tellStatus Operation.Reply.told?

variable {request : Http.Request} {s s' : Warden} {exchanges : List Exchange}
  {answer : Option Http.Response}

/-- A request that asks nothing of the supervisor makes no exchange with the host. -/
theorem serve_of_answered {response : Http.Response}
    (h : Demand.ofRequest request = .answered response) :
    serve supervised Conduct.silent request s exchanges answer s' ↔
      exchanges = [] ∧ answer = some response ∧ s' = s := by
  simp only [serve, h, Conduct.pure_iff]

/-- Any other request is served as the operation that it asks for. -/
theorem serve_of_operation {operation : Operation}
    (h : (Demand.ofRequest request).operation? = some operation) :
    serve supervised Conduct.silent request s exchanges answer s' ↔
      ∃ reply, Operation.Underway.machine.Runs (operation.start s) exchanges (s', reply) ∧
        answer = Run.response (Demand.ofRequest request) reply := by
  cases hdemand : Demand.ofRequest request with
  | answered response =>
      rw [hdemand] at h
      cases h
  | status isHead =>
      rw [hdemand] at h
      cases h
      simp only [serve, hdemand, Conduct.map_iff]
      constructor
      · rintro ⟨given, ⟨reply, hrun, rfl⟩, rfl⟩
        exact ⟨reply, hrun, by cases reply <;> rfl⟩
      · rintro ⟨reply, hrun, rfl⟩
        exact ⟨reply.told?, ⟨reply, hrun, rfl⟩, by cases reply <;> rfl⟩
  | restart time =>
      rw [hdemand] at h
      cases h
      simp only [serve, hdemand, Conduct.silent_bind_iff, Conduct.map_iff]
      constructor
      · rintro ⟨given, ⟨reply, hrun, rfl⟩, rfl⟩
        exact ⟨reply, hrun, by cases reply <;> rfl⟩
      · rintro ⟨reply, hrun, rfl⟩
        exact ⟨reply.launched?, ⟨reply, hrun, rfl⟩, by cases reply <;> rfl⟩

end Service

end ClockWarden
