import ClockWarden.Proofs.Host.EnvironmentBlock
import ClockWarden.Proofs.Text.Utf8
import ClockWarden.Supervisor.Launch

/-! Environments under an overlay. An overlaid variable has the value that the overlay gives it, and any
other one keeps its own (`get?_apply`); the block of an overlaid environment is read back as that
environment (`ofBlock_block_apply`), and the overlay brings no NUL to it unless the path of the library
holds one (`holds_noNul_apply`). -/

namespace ClockWarden.Supervisor

open Host

namespace Overlay

/-- The value that an overlay gives a variable, if it gives it one. -/
def value? (overlay : Overlay) (time : Option FakeTime) (name : Bytes) : Option Bytes :=
  if name = preloadName then some overlay.library
  else if name = noCacheName then some noCacheValue
  else if name = fakeTimeName then time.map (Utf8.encode ·.text)
  else none

/-- An overlaid variable has the value of the overlay, and any other one the value that it had. -/
theorem get?_apply (overlay : Overlay) (base : Environment) (time : Option FakeTime) (name : Bytes) :
    (overlay.apply base time).get? name = (overlay.value? time name).or (base.get? name) := by
  have hambient : (overlay.ambient base).get? name =
      if name = noCacheName then some noCacheValue
      else if name = preloadName then some overlay.library else base.get? name := by
    rw [ambient, Environment.get?_set, Environment.get?_set]
  have hnames : noCacheName ≠ preloadName ∧ fakeTimeName ≠ preloadName ∧ fakeTimeName ≠ noCacheName := by
    decide
  cases time with
  | none =>
      rw [apply, hambient, value?]
      by_cases hpreload : name = preloadName
      · rw [if_pos hpreload, if_pos hpreload, if_neg (by rw [hpreload]; exact hnames.1.symm),
          Option.some_or]
      · rw [if_neg hpreload, if_neg hpreload]
        by_cases hcache : name = noCacheName <;> simp [hcache]
  | some time =>
      rw [apply, timed, Environment.get?_set, hambient, value?]
      by_cases htime : name = fakeTimeName
      · rw [if_pos htime, if_neg (by rw [htime]; exact hnames.2.1),
          if_neg (by rw [htime]; exact hnames.2.2), if_pos htime, Option.map_some, Option.some_or]
      · rw [if_neg htime]
        by_cases hpreload : name = preloadName
        · rw [if_pos hpreload, if_pos hpreload, if_neg (by rw [hpreload]; exact hnames.1.symm),
            Option.some_or]
        · rw [if_neg hpreload, if_neg hpreload]
          by_cases hcache : name = noCacheName <;> simp [hcache, htime]

/-- What holds of the bindings of an environment holds under an overlay if it holds of the bindings that
the overlay brings. -/
theorem holds_apply {overlay : Overlay} {base : Environment} {time : Option FakeTime}
    {property : Binding → Prop} (h : base.Holds property)
    (hpreload : property (preloadName, overlay.library))
    (hcache : property (noCacheName, noCacheValue))
    (htime : ∀ t, time = some t → property (fakeTimeName, Utf8.encode t.text)) :
    (overlay.apply base time).Holds property := by
  have hambient : (overlay.ambient base).Holds property := (h.set hpreload).set hcache
  cases time with
  | none => exact hambient
  | some t => exact hambient.set (htime t rfl)

/-- The block of an overlaid environment is read back as that environment. -/
theorem ofBlock_block_apply (overlay : Overlay) (strings : List Bytes) (time : Option FakeTime) :
    Environment.ofBlock (overlay.apply (.ofBlock strings) time).block =
      overlay.apply (.ofBlock strings) time := by
  refine Environment.ofBlock_block (holds_apply ?_ ?_ ?_ ?_)
  · exact Environment.Holds.ofBlock fun _ _ _ hentry => Environment.isName_of_binding? hentry
  · exact ⟨_, _, rfl, by decide⟩
  · exact ⟨_, _, rfl, by decide⟩
  · exact fun _ _ => ⟨_, _, rfl, by decide⟩

/-- The strings of an overlaid environment hold no NUL, if neither those that it was read from nor the
path of the library do; a fake time holds none. -/
theorem holds_noNul_apply (overlay : Overlay) {strings : List Bytes}
    (hstrings : ∀ string ∈ strings, 0 ∉ string) (hlibrary : 0 ∉ overlay.library)
    (time : Option FakeTime) :
    (overlay.apply (.ofBlock strings) time).Holds fun entry => 0 ∉ entry.1 ∧ 0 ∉ entry.2 := by
  have hnames : 0 ∉ preloadName ∧ 0 ∉ noCacheName ∧ 0 ∉ fakeTimeName := by decide
  refine holds_apply ?_ ⟨hnames.1, hlibrary⟩ ⟨hnames.2.1, by decide⟩ ?_
  · refine Environment.Holds.ofBlock fun string hstring entry hentry => ?_
    exact ⟨fun hzero => hstrings string hstring (Environment.mem_of_binding? hentry 0 (Or.inl hzero)),
      fun hzero => hstrings string hstring (Environment.mem_of_binding? hentry 0 (Or.inr hzero))⟩
  · exact fun t _ => ⟨hnames.2.2, Utf8.zero_notMem_encode t.noNul⟩

end Overlay

/-- An environment without NUL adds none to a command. -/
theorem Deployment.holdsNul_command {environment : Environment}
    (h : environment.Holds fun entry => 0 ∉ entry.1 ∧ 0 ∉ entry.2) (deployment : Deployment) :
    (deployment.command environment).holdsNul = (deployment.command .empty).holdsNul := by
  have hentries : ∀ entry ∈ environment.entries,
      ¬(hasNul entry.1 || hasNul entry.2) = true := by
    intro entry hentry
    obtain ⟨hname, hvalue⟩ := h entry hentry
    simp only [hasNul, List.contains_iff_mem, Bool.or_eq_true]
    exact fun hzero => hzero.elim hname hvalue
  have hnone : (deployment.command environment).environment.entries.any _ = false :=
    List.any_eq_false.mpr hentries
  rw [Command.holdsNul, hnone]
  rfl

end ClockWarden.Supervisor
