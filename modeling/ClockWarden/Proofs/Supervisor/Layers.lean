import ClockWarden.Proofs.Host.EnvironmentNames
import ClockWarden.Proofs.Supervisor.Overlaid

/-! Overlays over overlays. An overlay with a fake time gives each of its variables a value, so what an earlier
overlay has given them is lost, and what neither of them gives is as it was (`timed_timed`). However many overlays
are put over an environment, the last one alone shows (`overlays_do_not_accumulate`). -/

namespace ClockWarden.Supervisor

open Host

namespace Overlay

/-- The variables of an overlay. -/
def names : Finset Bytes := {preloadName, noCacheName, fakeTimeName}

theorem value?_eq_none_iff (overlay : Overlay) (time : FakeTime) {name : Bytes} :
    overlay.value? (some time) name = none ↔ name ∉ names := by
  simp only [names, Finset.mem_insert, Finset.mem_singleton, not_or, value?]
  split_ifs with hpreload hcache htime
  · exact iff_of_false (by simp) (fun h => h.1 hpreload)
  · exact iff_of_false (by simp) (fun h => h.2.1 hcache)
  · exact iff_of_false (by simp) (fun h => h.2.2 htime)
  · exact iff_of_true rfl ⟨hpreload, hcache, htime⟩

theorem get?_timed (overlay : Overlay) (env : Environment) (time : FakeTime) (name : Bytes) :
    (overlay.timed env time).get? name = (overlay.value? (some time) name).or (env.get? name) :=
  overlay.get?_apply env (some time) name

/-- All variables but those of the overlay are left as they are. -/
theorem get?_timed_of_notMem (overlay : Overlay) (env : Environment) (time : FakeTime) {name : Bytes}
    (h : name ∉ names) : (overlay.timed env time).get? name = env.get? name := by
  rw [get?_timed, (overlay.value?_eq_none_iff time).mpr h, Option.none_or]

/-- The fake time is all that an overlay without one leaves out. -/
theorem get?_timed_of_ne (overlay : Overlay) (env : Environment) (time : FakeTime) {name : Bytes}
    (h : name ≠ fakeTimeName) : (overlay.timed env time).get? name = (overlay.ambient env).get? name := by
  rw [timed, Environment.get?_set, if_neg h]

/-- An overlay hides the one below it. -/
theorem timed_timed (below overlay : Overlay) (env : Environment) (earlier time : FakeTime) :
    overlay.timed (below.timed env earlier) time = overlay.timed env time := by
  refine Environment.ext_get? fun name => ?_
  rw [get?_timed, get?_timed overlay env]
  by_cases hname : name ∈ names
  · obtain ⟨value, hvalue⟩ :=
      Option.ne_none_iff_exists'.mp (mt (overlay.value?_eq_none_iff time).mp (not_not.mpr hname))
    rw [hvalue, Option.some_or, Option.some_or]
  · rw [get?_timed_of_notMem below env earlier hname]

theorem names_timed (overlay : Overlay) (env : Environment) (time : FakeTime) :
    (overlay.timed env time).names = names ∪ env.names := by
  rw [timed, ambient, Environment.names_set, Environment.names_set, Environment.names_set]
  ext name
  simp only [names, Finset.mem_insert, Finset.mem_union, Finset.mem_singleton]
  tauto

/-- An overlay adds those of its variables that were not there. -/
theorem size_timed (overlay : Overlay) (env : Environment) (time : FakeTime) :
    (overlay.timed env time).size = env.names.card + (names \ env.names).card := by
  rw [Environment.size_eq_card_names, names_timed, ← Finset.card_sdiff_add_card, Nat.add_comm]

/-- An environment under overlays, the first one lowest. -/
def layered (base : Environment) (layers : List (Overlay × FakeTime)) : Environment :=
  layers.foldl (fun env layer => layer.1.timed env layer.2) base

theorem layered_concat (base : Environment) (earlier : List (Overlay × FakeTime)) (overlay : Overlay)
    (time : FakeTime) : layered base (earlier ++ [(overlay, time)]) = overlay.timed base time := by
  induction earlier generalizing base with
  | nil => rfl
  | cons layer earlier ih =>
      calc layered base (layer :: earlier ++ [(overlay, time)])
          = layered (layer.1.timed base layer.2) (earlier ++ [(overlay, time)]) := rfl
        _ = overlay.timed (layer.1.timed base layer.2) time := ih _
        _ = overlay.timed base time := timed_timed layer.1 overlay base layer.2 time

end Overlay

/-- Of overlays that are put over an environment one after another the last one alone shows, and it adds at most its
three variables to the names of the list that the environment was made from. Each overlay leaves all other variables
as they were, and agrees with the overlay without a fake time on all but that. An environment made from a list finds
each name where it stands last, and is known by what it finds. -/
theorem overlays_do_not_accumulate (base : List Binding) (earlier : List (Overlay × FakeTime))
    (overlay : Overlay) (time : FakeTime) :
    Overlay.layered (.ofList base) (earlier ++ [(overlay, time)]) = overlay.timed (.ofList base) time ∧
    (Overlay.layered (.ofList base) (earlier ++ [(overlay, time)])).size =
      (base.map Prod.fst).toFinset.card + (Overlay.names \ (base.map Prod.fst).toFinset).card ∧
    (∀ (env : Environment) (name : Bytes), name ∉ Overlay.names →
      (overlay.timed env time).get? name = env.get? name) ∧
    (∀ (env : Environment) (name : Bytes), name ≠ Overlay.fakeTimeName →
      (overlay.timed env time).get? name = (overlay.ambient env).get? name) ∧
    (∀ name : Bytes, (Environment.ofList base).get? name = base.reverse.lookup name) ∧
    ∀ env env' : Environment, env = env' ↔ ∀ name, env.get? name = env'.get? name := by
  have hlast := Overlay.layered_concat (.ofList base) earlier overlay time
  refine ⟨hlast, ?_, ?_, ?_, Environment.get?_ofList base, ?_⟩
  · rw [hlast, Overlay.size_timed, Environment.names_ofList]
  · exact fun env name hname => overlay.get?_timed_of_notMem env time hname
  · exact fun env name hname => overlay.get?_timed_of_ne env time hname
  · refine fun env env' => ⟨?_, Environment.ext_get?⟩
    rintro rfl name
    rfl

end ClockWarden.Supervisor
