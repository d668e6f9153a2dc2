import ClockWarden.Proofs.Host.EnvironmentBlock
import Mathlib.Data.Finset.Card
import Mathlib.Data.List.Perm.Basic

/-! Environments as maps. An environment is what it answers to look-ups (`ext_get?`): its entries are the bindings
that are found, in the one order that is sorted. It has as many entries as names, and a list of bindings makes an
environment that has the names of the list and finds each where it stands last (`names_ofList`, `get?_ofList`). -/

namespace ClockWarden.Host.Environment

/-- The entry of a name is the only one. -/
theorem get?_eq_some_iff {env : Environment} {name value : Bytes} :
    env.get? name = some value ↔ (name, value) ∈ env.entries := by
  rw [get?, List.lookup_eq_some_iff]
  constructor
  · rintro ⟨before, after, hentries, -⟩
    rw [hentries]
    exact List.mem_append_right _ List.mem_cons_self
  · intro hmem
    obtain ⟨before, after, hentries⟩ := List.append_of_mem hmem
    refine ⟨before, after, hentries, fun entry hentry => ?_⟩
    have hsorted := env.sorted
    rw [hentries, List.pairwise_append] at hsorted
    exact bne_iff_ne.mpr (ne_of_bytesBefore (hsorted.2.2 entry hentry _ List.mem_cons_self)).symm

theorem nodup_map_fst_entries (env : Environment) : (env.entries.map Prod.fst).Nodup := by
  rw [List.Nodup, List.pairwise_map]
  exact env.sorted.imp ne_of_bytesBefore

/-- Environments that answer every look-up alike are the same. -/
theorem ext_get? {env env' : Environment} (h : ∀ name, env.get? name = env'.get? name) : env = env' := by
  have hmem (entry : Binding) : entry ∈ env.entries ↔ entry ∈ env'.entries := by
    obtain ⟨name, value⟩ := entry
    rw [← get?_eq_some_iff, ← get?_eq_some_iff, h]
  have hperm : env.entries.Perm env'.entries :=
    (List.perm_ext_iff_of_nodup env.nodup_map_fst_entries.of_map env'.nodup_map_fst_entries.of_map).mpr hmem
  have hentries : env.entries = env'.entries :=
    hperm.eq_of_pairwise (fun _ _ _ _ hbefore hafter =>
      absurd hafter (not_bytesBefore_of_bytesBefore hbefore)) env.sorted env'.sorted
  cases env
  cases env'
  cases hentries
  rfl

/-! ### Names -/

/-- The names that have a value. -/
def names (env : Environment) : Finset Bytes := (env.entries.map Prod.fst).toFinset

theorem mem_names {env : Environment} {name : Bytes} : name ∈ env.names ↔ env.get? name ≠ none := by
  rw [names, List.mem_toFinset, List.mem_map, Option.ne_none_iff_exists']
  constructor
  · rintro ⟨entry, hmem, rfl⟩
    exact ⟨entry.2, get?_eq_some_iff.mpr hmem⟩
  · rintro ⟨value, hvalue⟩
    exact ⟨(name, value), get?_eq_some_iff.mp hvalue, rfl⟩

theorem size_eq_card_names (env : Environment) : env.size = env.names.card := by
  rw [names, List.toFinset_card_of_nodup env.nodup_map_fst_entries, List.length_map, size]

theorem names_set (env : Environment) (name value : Bytes) :
    (env.set name value).names = insert name env.names := by
  ext other
  rw [Finset.mem_insert, mem_names, mem_names, get?_set]
  by_cases h : other = name
  · simp [h]
  · simp [h]

/-! ### Environments made from lists -/

theorem ofList_concat (bindings : List Binding) (binding : Binding) :
    ofList (bindings ++ [binding]) = (ofList bindings).set binding.1 binding.2 := by
  rw [ofList, List.foldl_append]
  rfl

/-- The last binding of a name counts. -/
theorem get?_ofList (bindings : List Binding) (name : Bytes) :
    (ofList bindings).get? name = bindings.reverse.lookup name := by
  induction bindings using List.reverseRecOn with
  | nil => rfl
  | append_singleton bindings binding ih =>
      rw [ofList_concat, get?_set, ih, List.reverse_append, List.reverse_singleton, List.singleton_append,
        lookup_binding]

theorem names_ofList (bindings : List Binding) : (ofList bindings).names = (bindings.map Prod.fst).toFinset := by
  induction bindings using List.reverseRecOn with
  | nil => rfl
  | append_singleton bindings binding ih =>
      rw [ofList_concat, names_set, ih, List.map_append, List.toFinset_append]
      ext name
      simp

end ClockWarden.Host.Environment
