import ClockWarden.Proofs.Host.Paths
import ClockWarden.Proofs.Supervisor.Running
import ClockWarden.Supervisor.Launch

/-! Which program is run. A process enters its working directory before it executes its program, so a
relative path is read from there. The path that is executed begins with the working directory already when
the program is given by a relative path of several components: a relative directory is then entered twice,
and the program of that directory is run if and only if that does not matter (`executed_alike_iff`). -/

namespace ClockWarden.Host.Command

/-- The directory that a command runs in, read from where it is started. -/
def home (start : Path) (c : Command) : Path := Path.join start c.directory

/-- The path that is executed, read from where the command is started. -/
def executed (start : Path) (c : Command) : Path := Path.join (c.home start) c.program

end ClockWarden.Host.Command

namespace ClockWarden.Supervisor

open Host

variable {d : Deployment}

namespace Deployment

/-- Reading the program from the working directory once more changes nothing: the directory is absolute, or
it is where the supervisor runs, or the path of the program has one component only. -/
def EntersOnce (d : Deployment) : Prop :=
  d.directory.isAbsolute = true ∨ (∀ component ∈ d.directory.components, component = .here) ∨
    d.program.components.length ≤ 1

instance (d : Deployment) : Decidable d.EntersOnce := inferInstanceAs (Decidable (_ ∨ _))

theorem resolvedProgram_of_isAbsolute (h : d.program.isAbsolute = true) :
    d.resolvedProgram = d.program := by
  simp [resolvedProgram, h]

theorem resolvedProgram_of_length (h : d.program.components.length ≤ 1) :
    d.resolvedProgram = d.program := by
  simp [resolvedProgram, Nat.not_lt.mpr h]

theorem resolvedProgram_eq_join (habsolute : d.program.isAbsolute = false)
    (hlength : 1 < d.program.components.length) :
    d.resolvedProgram = Path.join d.directory d.program := by
  simp [resolvedProgram, habsolute, hlength]

/-- A relative program is the one of the working directory if and only if the directory is entered once. -/
theorem executed_alike_iff (environment : Environment) {start : Path} (hstart : start.isAbsolute = true)
    (hprogram : d.program.isAbsolute = false) :
    Path.Alike ((d.command environment).executed start)
        (Path.join ((d.command environment).home start) d.program) ↔ d.EntersOnce := by
  change Path.Alike (Path.join (Path.join start d.directory) d.resolvedProgram)
    (Path.join (Path.join start d.directory) d.program) ↔ _
  by_cases hlength : d.program.components.length ≤ 1
  · rw [resolvedProgram_of_length hlength]
    exact iff_of_true rfl (Or.inr (Or.inr hlength))
  rw [resolvedProgram_eq_join hprogram (Nat.lt_of_not_le hlength)]
  cases hdirectory : d.directory.isAbsolute with
  | true =>
      have hresolved : (Path.join d.directory d.program).isAbsolute = true :=
        (Path.isAbsolute_join d.directory hprogram).trans hdirectory
      rw [Path.join_of_isAbsolute start hdirectory, Path.join_of_isAbsolute _ hresolved]
      exact iff_of_true rfl (Or.inl hdirectory)
  | false =>
      have hhome : (Path.join start d.directory).isAbsolute = true :=
        (Path.isAbsolute_join start hdirectory).trans hstart
      have hresolved : (Path.join d.directory d.program).isAbsolute = false :=
        (Path.isAbsolute_join d.directory hprogram).trans hdirectory
      have hentered : d.EntersOnce ↔ ∀ component ∈ d.directory.components, component = .here := by
        simp only [EntersOnce, hdirectory, hlength, or_false, Bool.false_eq_true, false_or]
      rw [hentered, ← Path.steps_eq_nil_iff hdirectory,
        Path.alike_iff_steps ((Path.isAbsolute_join _ hresolved).trans hhome)
          ((Path.isAbsolute_join _ hprogram).trans hhome),
        Path.steps_join _ hresolved, Path.steps_join _ hprogram, Path.steps_join _ hprogram,
        List.append_cancel_left_eq, List.append_left_eq_self]

end Deployment

namespace Launch

/-- Once the host has been asked for the process nothing but the date is still asked for. -/
theorem receive_spawning {environment : Environment} {time : Option FakeTime}
    (answer : Except Error Pid) :
    (receive ⟨d, environment, time, .spawning⟩ answer).Leads (fun next => ∃ pid, next.stage = .stamping pid)
      (fun _ => True) := by
  rcases answer with cause | pid
  · exact trivial
  · exact ⟨pid, rfl⟩

theorem not_spawn_of_runs {turn : Turn Launch Result} {exchanges : List Exchange} {result : Result}
    (hturn : turn.Leads (fun next => ∃ pid, next.stage = .stamping pid) (fun _ => True))
    (h : machine.Runs turn exchanges result) : ∀ exchange ∈ exchanges, ¬exchange.call.IsSpawn := by
  induction h with
  | finish => exact fun exchange hmem => (by cases hmem)
  | @goOn entries state answer exchanges result _ ih =>
      obtain ⟨deployment, environment, time, stage⟩ := state
      obtain ⟨pid, rfl⟩ : ∃ pid, stage = .stamping pid := hturn
      refine List.forall_mem_cons.mpr ⟨?_, ih trivial⟩
      rintro ⟨command, hcall⟩
      cases hcall

end Launch

/-- A launch asks for one process, which runs in the working directory. A program that is given by an
absolute path, or by a name without a slash, is passed on as it is. Any other one is executed where it lies
in the working directory if and only if that directory is entered once, that is, unless the directory is
relative and leads somewhere, and the path of the program has several components. -/
theorem launches_program_of_directory {environment : Environment}
    {time : Option FakeTime} {exchanges : List Exchange} {result : Launch.Result}
    (h : Launch.machine.Runs (Launch.start d environment time) exchanges result) :
    ∃ command answer rest, exchanges = ⟨.spawn command, answer⟩ :: rest ∧
      (∀ exchange ∈ rest, ¬exchange.call.IsSpawn) ∧
      command.directory = d.directory ∧
      (d.program.isAbsolute = true ∨ Path.slash ∉ d.program → command.program = d.program) ∧
      ∀ start : Path, start.isAbsolute = true → d.program.isAbsolute = false → Path.slash ∈ d.program →
        (Path.Alike (command.executed start) (Path.join (command.home start) d.program) ↔
          d.EntersOnce) := by
  cases h with
  | @goOn _ _ answer rest _ hrun =>
      refine ⟨d.command environment, answer, rest, rfl, ?_, rfl, ?_, ?_⟩
      · exact Launch.not_spawn_of_runs (Launch.receive_spawning answer) hrun
      · rintro (habsolute | hname)
        · exact d.resolvedProgram_of_isAbsolute habsolute
        · exact d.resolvedProgram_of_length (Path.length_components_of_notMem hname)
      · exact fun start hstart hprogram _ => d.executed_alike_iff environment hstart hprogram

/-! ### A relative directory -/

namespace Launch.Sample

/-- The program `./run` of the directory `sub`. -/
def deployment : Deployment := { Deployment.standard with program := Utf8.encode "./run", directory := Utf8.encode "sub" }

def exchanges : List Exchange :=
  [⟨.spawn (deployment.command .empty), (.error .notFound : Except Error Pid)⟩]

theorem runs : machine.Runs (start deployment .empty none) exchanges
    (.error (.launch deployment.resolvedProgram.text .notFound)) := .goOn .finish

end Launch.Sample

theorem launches_program_of_directory_twice :
    ∃ command answer, Launch.Sample.exchanges = [⟨.spawn command, answer⟩] ∧
      command.executed (Utf8.encode "/srv") = Utf8.encode "/srv/sub/sub/./run" ∧
      ¬Path.Alike (command.executed (Utf8.encode "/srv"))
        (Path.join (command.home (Utf8.encode "/srv")) Launch.Sample.deployment.program) := by
  obtain ⟨command, answer, rest, hexchanges, -, -, -, halike⟩ :=
    launches_program_of_directory Launch.Sample.runs
  cases hexchanges
  refine ⟨_, _, rfl, by decide, ?_⟩
  rw [halike (Utf8.encode "/srv") (by decide) (by decide) (by decide)]
  decide

end ClockWarden.Supervisor
