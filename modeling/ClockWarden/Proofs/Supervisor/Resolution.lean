import ClockWarden.Proofs.Supervisor.ProgramPath

/-! Deployments that are alike run programs that are alike. Whether a program is joined to the working directory
is decided by the components of its path, which paths that are alike share, and the bytes on either side of the
seam count no more than they did apart (`alike_resolvedProgram`, `resolves_by_components`). -/

namespace ClockWarden.Supervisor

open Host

namespace Deployment

variable {d e : Deployment}

/-- A relative program of several components is looked for in the working directory. -/
def IsJoined (d : Deployment) : Prop := d.program.isAbsolute = false ∧ 1 < d.program.components.length

instance (d : Deployment) : Decidable d.IsJoined := inferInstanceAs (Decidable (_ ∧ _))

theorem resolvedProgram_of_isJoined (h : d.IsJoined) :
    d.resolvedProgram = Path.join d.directory d.program := resolvedProgram_eq_join h.1 h.2

theorem resolvedProgram_of_not_isJoined (h : ¬d.IsJoined) : d.resolvedProgram = d.program := by
  cases habsolute : d.program.isAbsolute with
  | true => exact resolvedProgram_of_isAbsolute habsolute
  | false => exact resolvedProgram_of_length (Nat.le_of_not_lt fun hlength => h ⟨habsolute, hlength⟩)

theorem Alike.isJoined_iff (h : d.Alike e) : d.IsJoined ↔ e.IsJoined := by
  unfold IsJoined
  rw [h.1.isAbsolute_eq, show d.program.components = e.program.components from h.1]

theorem alike_resolvedProgram (h : d.Alike e) : Path.Alike d.resolvedProgram e.resolvedProgram := by
  obtain ⟨hprogram, -, hdirectory, -, -⟩ := id h
  by_cases hjoined : d.IsJoined
  · rw [resolvedProgram_of_isJoined hjoined, resolvedProgram_of_isJoined (h.isJoined_iff.mp hjoined)]
    exact hdirectory.join hprogram hjoined.1
  · rw [resolvedProgram_of_not_isJoined hjoined,
      resolvedProgram_of_not_isJoined (mt h.isJoined_iff.mpr hjoined)]
    exact hprogram

/-- The path of a joined program is the way to the working directory and then, without a dot at its front, the way
of the program. -/
theorem components_resolvedProgram (h : d.IsJoined) :
    d.resolvedProgram.components = d.directory.components ++
      if d.directory = [] then d.program.components else Path.afterDot d.program.components := by
  rw [resolvedProgram_of_isJoined h]
  split
  · rename_i hempty
    rw [hempty, Path.join_nil]
    rfl
  · rename_i hdirectory
    exact Path.components_join h.1 hdirectory

end Deployment

/-- Deployments that are alike resolve to programs that are alike. A relative program of several components is
resolved to the components of the working directory and then its own, where a dot at their front stays only behind
an empty directory; and any other program stays as it is, byte for byte. -/
theorem resolves_by_components :
    (∀ d e : Deployment, d.Alike e → Path.Alike d.resolvedProgram e.resolvedProgram) ∧
    (∀ d : Deployment, d.program.isAbsolute = false → 1 < d.program.components.length →
      d.resolvedProgram.components = d.directory.components ++
        if d.directory = [] then d.program.components else Path.afterDot d.program.components) ∧
    ∀ d : Deployment, ¬(d.program.isAbsolute = false ∧ 1 < d.program.components.length) →
      d.resolvedProgram = d.program :=
  ⟨fun _ _ h => Deployment.alike_resolvedProgram h,
    fun _ habsolute hlength => Deployment.components_resolvedProgram ⟨habsolute, hlength⟩,
    fun _ h => Deployment.resolvedProgram_of_not_isJoined h⟩

/-! ### Two spellings of a deployment -/

namespace Deployment.Sample

def plain : Deployment :=
  { Deployment.standard with program := Utf8.encode "./bin/run", directory := Utf8.encode "srv" }

/-- The same, with slashes doubled and at the end, and dots in the middle. -/
def spelled : Deployment :=
  { Deployment.standard with program := Utf8.encode ".//bin/./run/", directory := Utf8.encode "srv/./" }

end Deployment.Sample

theorem resolves_by_components_spelled :
    Deployment.Sample.plain.Alike Deployment.Sample.spelled ∧
      Path.Alike (Utf8.encode "srv/./bin/run") (Utf8.encode "srv/././/bin/./run/") ∧
      Deployment.Sample.spelled.resolvedProgram.components =
        [.name (Utf8.encode "srv"), .name (Utf8.encode "bin"), .name (Utf8.encode "run")] := by
  have halike : Deployment.Sample.plain.Alike Deployment.Sample.spelled := by decide
  refine ⟨halike, resolves_by_components.1 _ _ halike, ?_⟩
  exact resolves_by_components.2.1 Deployment.Sample.spelled (by decide) (by decide)

end ClockWarden.Supervisor
